import CoreWatch.Admin.Pages
import CoreWatch.Proofs.Fleet.Publisher

set_option autoImplicit false

/-!
The scrape document in its file where it can always be written: every pass that changes the set of
collectors writes it anew, and no other one does. So it always lists the collectors that there are;
the labels that it takes from the topology are those of the latest pass that changed the set.
-/

namespace CoreWatch.Fleet

/-- Where a write does not fail a clean fleet stays clean, and writes if its collectors change. -/
theorem Turn.publication_of_written {turn : Turn} {path : String}
    (configured : turn.before.fleet.settings.scrape.path = some path)
    (placed : turn.visit.Places path) (clean : turn.before.fleet.dirty = false)
    (written : turn.fails = false) :
    turn.after.fleet.dirty = false ∧ turn.publication?.map (·.topology) = turn.change? := by
  refine ⟨(dirty_after configured).trans written, ?_⟩
  cases effect configured placed with
  | rests unchanged _ unwritten =>
    rw [unchanged, unwritten]
    rfl
  | writes due _ published =>
    rw [clean, Bool.or_false] at due
    rw [published, change?, if_pos due]
    rfl
  | fails _ _ failed => exact absurd (failed.symm.trans written) Bool.false_ne_true.symm

namespace Publisher

section

variable {settings : Settings} {path : String} (configured : settings.scrape.path = some path)
  (files : FileTree) {visits : List Visit} (placed : ∀ visit ∈ visits, visit.Places path)
  (written : ∀ turn ∈ (begin settings files).turns visits, turn.fails = false)

include configured placed written

/-- Where no write fails, the passes that write are those that change the collectors. -/
theorem publications_of_written :
    ((begin settings files).run visits).fleet.dirty = false ∧
      (Turn.latest? Turn.publication? ((begin settings files).turns visits)).map (·.topology) =
        Turn.latest? Turn.change? ((begin settings files).turns visits) := by
  induction visits using List.reverseRecOn with
  | nil => exact ⟨rfl, rfl⟩
  | append_singleton visits visit ih =>
    rw [List.forall_mem_append, List.forall_mem_singleton] at placed
    rw [turns_concat, List.forall_mem_append, List.forall_mem_singleton] at written
    obtain ⟨clean, same⟩ := ih placed.1 written.1
    have standing := run_standing configured files placed.1
    obtain ⟨still, one⟩ :=
      Turn.publication_of_written standing.configured placed.2 clean written.2
    rw [turns_concat, run_concat, Turn.latest?_concat, Turn.latest?_concat, Option.map_or, one,
      same]
    exact ⟨still, rfl⟩

/-- The file shows the collectors as they are, labelled as at the latest change. -/
theorem text_of_latestChange {topology : Topology}
    (latest : Turn.latest? Turn.change? ((begin settings files).turns visits) = some topology) :
    ((begin settings files).run visits).text? =
      some { ((begin settings files).run visits).fleet with topology }.document.render := by
  obtain ⟨clean, same⟩ := publications_of_written configured files placed written
  rw [latest] at same
  obtain ⟨publication, published, rfl⟩ := Option.map_eq_some_iff.mp same
  obtain ⟨text, document⟩ :=
    (run_standing configured files placed).shown clean publication published
  rw [text, document]

end

end Publisher

/-- Whether two topologies give the collectors and the other jobs the same labels. -/
def SameLabels (fleet : Fleet) (left right : Topology) : Prop :=
  left.deployment = right.deployment ∧
    ∀ spec ∈ fleet.specs, Scrape.roleLabel (left.get? spec.component) =
      Scrape.roleLabel (right.get? spec.component)

theorem SameLabels.document_eq {fleet : Fleet} {left right : Topology}
    (same : fleet.SameLabels left right) :
    { fleet with topology := left }.document = { fleet with topology := right }.document := by
  have jobs (spec : Collector.Spec) (listed : spec ∈ fleet.specs) :
      fleet.settings.scrape.collectorTarget spec (left.get? spec.component) (some left.deployment) =
        fleet.settings.scrape.collectorTarget spec (right.get? spec.component)
          (some right.deployment) := by
    simp only [Scrape.Settings.collectorTarget, same.2 spec listed, same.1]
  have targets : { fleet with topology := left }.targets =
      { fleet with topology := right }.targets := by
    change fleet.specs.map _ ++ _ = fleet.specs.map _ ++ _
    rw [List.map_congr_left jobs, same.1]
  simp only [document, targets, same.1]

/--
Where every document that is due can be written, a pass writes exactly if it changes the set of
collectors, and the file shows the collectors as they are, labelled by the topology of the latest
such pass. So it is the document of the fleet right after each change, and stays that, in agreement
with the page of targets, as long as later topologies give the same labels.
-/
theorem document_follows_changes {settings : Settings} {path : String}
    (configured : settings.scrape.path = some path) (files : FileTree) (visits : List Visit)
    (placed : ∀ visit ∈ visits, visit.Places path)
    (written : ∀ turn ∈ (Publisher.begin settings files).turns visits, turn.fails = false) :
    let start := Publisher.begin settings files
    let after := start.run visits
    let latestChange := Turn.latest? Turn.change? (start.turns visits)
    (∀ visit, (after.reconcile visit).attempt =
        if (after.reconcile visit).outcome.isChange then some (after.pass visit).fleet.document
        else none) ∧
      (latestChange = none → after.files = files) ∧
      (∀ topology, latestChange = some topology →
        after.text? = some { after.fleet with topology }.document.render) ∧
      (∀ earlier visit, visits = earlier ++ [visit] →
        ((start.run earlier).reconcile visit).outcome.isChange = true →
          after.text? = some after.fleet.document.render) ∧
      (∀ topology, latestChange = some topology →
        after.fleet.SameLabels topology after.fleet.topology →
          ∃ document : Scrape.Document, after.text? = some document.render ∧
            document.deployment = some after.fleet.topology.deployment ∧
            Admin.targetsJson after.fleet =
              .arr (document.targets.map Scrape.Target.toJson)) := by
  intro start after latestChange
  have standing := Publisher.run_standing configured files placed
  have shown (topology : Topology) (latest : latestChange = some topology) :
      after.text? = some { after.fleet with topology }.document.render :=
    Publisher.text_of_latestChange configured files placed written latest
  refine ⟨fun visit => ?_, fun none => (standing.untouched none).2.1, shown, ?_, ?_⟩
  · have clean := (Publisher.publications_of_written configured files placed written).1
    have attempt : (Turn.mk after visit).done.attempt = _ := Turn.attempt_eq standing.configured
    rw [clean, Bool.or_false] at attempt
    exact attempt
  · rintro earlier visit rfl change
    have latest : latestChange = some visit.topology := by
      have told : (Turn.mk (start.run earlier) visit).change? = some visit.topology := if_pos change
      rw [← Option.some_or (a := visit.topology), ← told, ← Turn.latest?_concat,
        ← Publisher.turns_concat]
    have known : after.fleet.topology = visit.topology := by
      change (start.run (earlier ++ [visit])).fleet.topology = _
      rw [Publisher.run_concat, Publisher.topology_pass]
    rw [shown _ latest, ← known]
  · intro topology latest same
    refine ⟨after.fleet.document, ?_, rfl, rfl⟩
    rw [shown _ latest, same.document_eq]

/-- The collector of a second generation brings new labels for the first one. -/
theorem document_follows_changes_mixed :
    let launcher : Launcher := fun spec => .ok { port := spec.port, settings := {} }
    let visit (seconds : Int) (components : List Component) : Visit :=
      ⟨.undisturbed launcher ⟨seconds⟩ "scrape.yml", .ofComponents components⟩
    let first := visit 0 [⟨"amf", "", "10.0.0.1", true, []⟩]
    let second := visit 1 [⟨"amf", "", "10.0.0.1", true, []⟩, ⟨"mme", "", "10.0.0.2", true, []⟩]
    let settings : Settings := { scrape := { path := some "scrape.yml" } }
    let start := Publisher.begin settings .empty
    let after := start.run [first, second]
    (∀ visit ∈ [first, second], visit.Places "scrape.yml") ∧
      (∀ turn ∈ start.turns [first, second], turn.fails = false) ∧
      after.fleet.topology.deployment = .mixed ∧
      after.text? = some after.fleet.document.render := by
  intro launcher visit first second settings start after
  have placed : ∀ visit ∈ [first, second], visit.Places "scrape.yml" := by
    rw [List.forall_mem_cons, List.forall_mem_singleton]
    exact ⟨undisturbed_places launcher ⟨0⟩ _, undisturbed_places launcher ⟨1⟩ _⟩
  have written : ∀ turn ∈ start.turns [first, second], turn.fails = false := by decide +kernel
  have changes : ((start.run [first]).reconcile second).outcome.isChange = true := by
    decide +kernel
  obtain ⟨_, _, _, renewed, _⟩ := document_follows_changes rfl .empty [first, second] placed written
  exact ⟨placed, written, by decide +kernel, renewed [first] second rfl changes⟩

/-- A component that does not run tells another generation of the core, and nothing is written. -/
theorem document_outdated :
    let launcher : Launcher := fun spec => .ok { port := spec.port, settings := {} }
    let visit (seconds : Int) (components : List Component) : Visit :=
      ⟨.undisturbed launcher ⟨seconds⟩ "scrape.yml", .ofComponents components⟩
    let first := visit 0 [⟨"amf", "", "10.0.0.1", true, []⟩]
    let second := visit 1 [⟨"amf", "", "10.0.0.1", true, []⟩, ⟨"mme", "", "10.0.0.2", false, []⟩]
    let start := Publisher.begin { scrape := { path := some "scrape.yml" } } .empty
    let after := start.run [first, second]
    (∀ visit ∈ [first, second], visit.Places "scrape.yml") ∧
      (∀ turn ∈ start.turns [first, second], turn.fails = false) ∧
      (start.reconcile first).attempt.isSome = true ∧
      after.fleet.topology.deployment = .mixed ∧
      after.text? ≠ some after.fleet.document.render := by
  intro launcher visit first second start after
  have placed : ∀ visit ∈ [first, second], visit.Places "scrape.yml" := by
    rw [List.forall_mem_cons, List.forall_mem_singleton]
    exact ⟨undisturbed_places launcher ⟨0⟩ _, undisturbed_places launcher ⟨1⟩ _⟩
  have written : ∀ turn ∈ start.turns [first, second], turn.fails = false := by decide +kernel
  have changes : (start.reconcile first).outcome.isChange = true := by decide +kernel
  have rests : ((start.pass first).reconcile second).outcome.isChange = false := by decide +kernel
  have latest : Turn.latest? Turn.change? (start.turns [first, second]) = some first.topology := by
    have told : (Turn.mk start first).change? = some first.topology := if_pos changes
    have quiet : (Turn.mk (start.pass first) second).change? = none :=
      if_neg (rests ▸ Bool.false_ne_true)
    rw [Publisher.turns, Publisher.turns, Publisher.turns, Turn.latest?,
      List.filterMap_cons_some told, List.filterMap_cons_none quiet]
    rfl
  have text : after.text? = some { after.fleet with topology := first.topology }.document.render :=
    Publisher.text_of_latestChange rfl .empty placed written latest
  refine ⟨placed, written, by decide +kernel, by decide +kernel, ?_⟩
  rw [text]
  intro same
  have texts := Option.some.inj same
  -- The labels of the deployment stand near the beginning, so few characters are compared.
  change String.ofList _ = String.ofList _ at texts
  rw [String.ofList_inj] at texts
  revert texts
  decide +kernel

end CoreWatch.Fleet
