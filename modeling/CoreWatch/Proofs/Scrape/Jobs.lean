import CoreWatch.Proofs.Maps
import CoreWatch.Proofs.Yaml.Blocks
import CoreWatch.Scrape.Document

set_option autoImplicit false

/-!
The jobs of a scrape document as they are found in its text, which is read as YAML: whatever the
names, addresses and labels are, the text lists the jobs that it was made from.
-/

namespace CoreWatch

open Yaml (Node)

namespace Yaml.Node

def member? (node : Node) (key : String) : Option Node :=
  match node with
  | .record members => members.lookup key
  | _ => none

def text? : Node → Option String
  | .scalar text => some text
  | _ => none

def items? : Node → Option (List Node)
  | .list items => some items
  | _ => none

/-- The item of a list that has no other one. -/
def only? : Node → Option Node
  | .list [item] => some item
  | _ => none

end Yaml.Node

namespace Scrape

def label? (member : String × Node) : Option (String × String) :=
  member.2.text?.map (member.1, ·)

def labels? : Node → Option (List (String × String))
  | .record members => members.mapM label?
  | _ => none

def Target.ofNode? (node : Node) : Option Target := do
  let job ← (← node.member? "job_name").text?
  let interval ← (← node.member? "scrape_interval").text?
  let path ← (← node.member? "metrics_path").text?
  let config ← (← node.member? "static_configs").only?
  let target ← (← (← config.member? "targets").only?).text?
  let labels ← labels? (← config.member? "labels")
  return { job, target, path, interval, labels }

/-- The jobs that a text of YAML lists. -/
def jobs? (text : String) : Option (List Target) := do
  let members ← Yaml.readRecord? text
  (← (← members.lookup "scrape_configs").items?).mapM Target.ofNode?

/-- What has been written for each of several things is read for each of them. -/
theorem mapM_map_some {α β : Type} (write : α → β) (read : β → Option α)
    (back : ∀ a, read (write a) = some a) (items : List α) :
    (items.map write).mapM read = some items := by
  induction items with
  | nil => rfl
  | cons item items ih =>
    rw [List.map_cons, List.mapM_cons, back, ih]
    rfl

theorem labels?_labelNode (labels : List (String × String)) :
    labels? (Document.labelNode labels) = some labels :=
  mapM_map_some _ label? (fun _ => rfl) labels

theorem ofNode?_targetNode (target : Target) :
    Target.ofNode? (Document.targetNode target) = some target := by
  change (labels? (Document.labelNode target.labels)).bind _ = _
  rw [labels?_labelNode]
  rfl

/-- Labels with names that are keys. -/
def HaveKeys (labels : List (String × String)) : Prop :=
  ∀ name ∈ labels.map Prod.fst, Yaml.isKey name = true

theorem HaveKeys.labelNode {labels : List (String × String)} (keys : HaveKeys labels) :
    (Document.labelNode labels).isKeyed = true := by
  rw [Document.labelNode, Node.isKeyed]
  induction labels with
  | nil => rfl
  | cons label labels ih =>
    rw [HaveKeys, List.map_cons, List.forall_mem_cons] at keys
    rw [List.map_cons, Node.haveKeys, keys.1, Node.isKeyed]
    exact ih keys.2

theorem HaveKeys.targetNode {target : Target} (keys : HaveKeys target.labels) :
    (Document.targetNode target).isKeyed = true := by
  simp only [Document.targetNode, Node.isKeyed, Node.haveKeys, Node.areKeyed, keys.labelNode]
  decide

theorem haveKeys_externalLabels (document : Document) : HaveKeys document.externalLabels := by
  rw [HaveKeys, Document.externalLabels]
  cases document.deployment <;> simp only [List.map_append, List.map_cons, List.map_nil] <;> decide

/-- The text of a document lists its jobs. -/
theorem jobs?_render {document : Document} (keys : ∀ target ∈ document.targets,
    HaveKeys target.labels) : jobs? document.render = some document.targets := by
  have jobs : Node.areKeyed (document.targets.map Document.targetNode) = true := by
    generalize document.targets = targets at keys
    induction targets with
    | nil => rfl
    | cons target targets ih =>
      rw [List.forall_mem_cons] at keys
      rw [List.map_cons, Node.areKeyed, keys.1.targetNode, ih keys.2]
      rfl
  have external := (haveKeys_externalLabels document).labelNode
  have keyed : document.toYaml.isKeyed = true := by
    simp only [Document.toYaml, Node.haveKeys, Node.isKeyed, external, jobs]
    decide
  rw [Document.toYaml, Node.isKeyed] at keyed
  have read := Yaml.readRecord?_render (List.cons_ne_nil _ _) keyed
  rw [← Document.toYaml] at read
  rw [jobs?, Document.render, read]
  exact mapM_map_some _ _ ofNode?_targetNode document.targets

theorem HaveKeys.sorted {labels : List (String × String)} (keys : HaveKeys labels) :
    HaveKeys (sorted labels) := by
  intro name listed
  rw [Scrape.sorted, Std.ExtTreeMap.map_fst_toList_eq_keys, Std.ExtTreeMap.mem_keys,
    Std.ExtTreeMap.mem_ofList, List.contains_iff_mem] at listed
  exact keys name listed

/-- A job that has a collector watched: its name, its port, and what it stands for. -/
structure Target.Watches (settings : Settings) (spec : Collector.Spec) (target : Target) :
    Prop where
  job : target.job = spec.component ++ "-real"
  port : target.target = settings.advertiseHost ++ ":" ++ toString spec.port
  component : ("component", spec.component) ∈ target.labels
  function : ("nf_type", spec.function.name) ∈ target.labels
  address : ("component_ip", spec.address) ∈ target.labels
  /-- So the labels above are the only ones of their names. -/
  distinct : (target.labels.map Prod.fst).Nodup

/-- What the labels of a collector's job are made from. -/
def collectorLabels (spec : Collector.Spec) (component : Option Component)
    (deployment : Option Deployment) : List (String × String) :=
  [("component", spec.component), ("nf_type", spec.function.name), ("source", "nf_endpoint"),
    ("component_ip", spec.address)] ++ roleLabel component ++ deploymentLabel deployment

theorem names_roleLabel (component : Option Component) :
    (roleLabel component).map Prod.fst = [] ∨
      (roleLabel component).map Prod.fst = ["component_type"] := by
  cases component with
  | none => exact Or.inl rfl
  | some component =>
    simp only [roleLabel]
    split
    · exact Or.inl rfl
    · exact Or.inr rfl

theorem nodup_collectorLabels (spec : Collector.Spec) (component : Option Component)
    (deployment : Option Deployment) :
    ((collectorLabels spec component deployment).map Prod.fst).Nodup := by
  simp only [collectorLabels, List.map_append]
  rcases names_roleLabel component with none | one
  · rw [none]
    cases deployment <;> simp [deploymentLabel]
  · rw [one]
    cases deployment <;> simp [deploymentLabel]

theorem haveKeys_deploymentLabel (deployment : Option Deployment) :
    HaveKeys (deploymentLabel deployment) := by
  rw [HaveKeys]
  cases deployment with
  | none => decide
  | some deployment =>
    simp only [deploymentLabel, List.map_cons, List.map_nil]
    decide

theorem haveKeys_collectorLabels (spec : Collector.Spec) (component : Option Component)
    (deployment : Option Deployment) : HaveKeys (collectorLabels spec component deployment) := by
  have role : HaveKeys (roleLabel component) := by
    rw [HaveKeys]
    rcases names_roleLabel component with none | one
    · rw [none]
      decide
    · rw [one]
      decide
  simp only [HaveKeys, collectorLabels, List.map_append, List.forall_mem_append]
  refine ⟨⟨?_, role⟩, haveKeys_deploymentLabel deployment⟩
  simp only [List.map_cons, List.map_nil]
  decide

theorem labels_collectorTarget (settings : Settings) (spec : Collector.Spec)
    (component : Option Component) (deployment : Option Deployment) :
    (settings.collectorTarget spec component deployment).labels =
      sorted (collectorLabels spec component deployment) :=
  rfl

theorem collectorTarget_watches (settings : Settings) (spec : Collector.Spec)
    (component : Option Component) (deployment : Option Deployment) :
    (settings.collectorTarget spec component deployment).Watches settings spec := by
  have given := nodup_collectorLabels spec component deployment
  have shown (label : String × String)
      (listed : label ∈ collectorLabels spec component deployment) :
      label ∈ (settings.collectorTarget spec component deployment).labels := by
    rw [labels_collectorTarget]
    exact Maps.mem_toList_ofList given listed
  refine ⟨rfl, rfl, shown _ ?_, shown _ ?_, shown _ ?_, ?_⟩
  · simp [collectorLabels]
  · simp [collectorLabels]
  · simp [collectorLabels]
  · rw [labels_collectorTarget]
    exact Maps.nodup_toList_keys _

theorem jobs_ownTargets (settings : Settings) (deployment : Option Deployment) :
    (settings.ownTargets deployment).map (·.job) = ["container-metrics", "health-checks"] :=
  rfl

theorem haveKeys_ownTargets (settings : Settings) (deployment : Option Deployment) :
    ∀ target ∈ settings.ownTargets deployment, HaveKeys target.labels := by
  have own (source : String) :
      HaveKeys (sorted (("source", source) :: deploymentLabel deployment)) := by
    refine HaveKeys.sorted ?_
    rw [HaveKeys, List.map_cons, List.forall_mem_cons]
    have word : Yaml.isKey "source" = true := by decide
    exact ⟨word, haveKeys_deploymentLabel deployment⟩
  rw [Settings.ownTargets, List.forall_mem_cons, List.forall_mem_singleton]
  exact ⟨own _, own _⟩

end Scrape
end CoreWatch
