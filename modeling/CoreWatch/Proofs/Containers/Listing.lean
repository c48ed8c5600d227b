import CoreWatch.Containers.Engine
import CoreWatch.Proofs.Text.Markers
import CoreWatch.Proofs.Topology.Components
import Mathlib.Data.List.Forall2
import Mathlib.Data.Option.Basic

set_option autoImplicit false

/-!
The topology of a container runtime and the list of containers it is made from. Sorting takes the
order out of the ports and the networks of a container, and names that differ take it out of the
list of containers itself.
-/

namespace CoreWatch

section

variable {α κ : Type} [LE κ] [DecidableLE κ] [Std.IsLinearOrder κ] (key : α → κ)

theorem mergeSort_ascending (items : List α) :
    (items.mergeSort fun left right => key left ≤ key right).Pairwise
      fun left right => key left ≤ key right := by
  have trans (first second third : α) (before : decide (key first ≤ key second) = true)
      (after : decide (key second ≤ key third) = true) : decide (key first ≤ key third) = true :=
    decide_eq_true (Std.le_trans (of_decide_eq_true before) (of_decide_eq_true after))
  have total (first second : α) :
      (decide (key first ≤ key second) || decide (key second ≤ key first)) = true := by
    rw [Bool.or_eq_true, decide_eq_true_iff, decide_eq_true_iff]
    exact Std.le_total
  exact (List.pairwise_mergeSort trans total items).imp of_decide_eq_true

/-- Where the items of a list are told apart by a key, sorting forgets how they stood. -/
theorem mergeSort_eq_of_perm {left right : List α} (same : left.Perm right)
    (apart : ∀ first ∈ left, ∀ second ∈ left, key first = key second → first = second) :
    (left.mergeSort fun left right => key left ≤ key right) =
      right.mergeSort fun left right => key left ≤ key right := by
  refine List.Perm.eq_of_pairwise (fun first second atLeft atRight before after => ?_)
    (mergeSort_ascending key left) (mergeSort_ascending key right)
    ((List.mergeSort_perm left _).trans (same.trans (List.mergeSort_perm right _).symm))
  rw [List.mem_mergeSort] at atLeft atRight
  exact apart first atLeft second (same.mem_iff.mpr atRight) (Std.le_antisymm before after)

end

section

variable {α : Type}

theorem eraseReps_loop [BEq α] (first : α) (rest done : List α) :
    List.eraseRepsBy.loop (· == ·) first rest done = done.reverse ++ (first :: rest).eraseReps := by
  induction rest generalizing first done with
  | nil => simp [List.eraseReps, List.eraseRepsBy, List.eraseRepsBy.loop]
  | cons second rest ih =>
    rw [List.eraseReps, List.eraseRepsBy, List.eraseRepsBy.loop, List.eraseRepsBy.loop]
    cases first == second with
    | true => rw [ih first done, ih first []]; simp
    | false => rw [ih second (first :: done), ih second [first]]; simp

theorem eraseReps_cons_cons [DecidableEq α] (first second : α) (rest : List α) :
    (first :: second :: rest).eraseReps =
      if first = second then (first :: rest).eraseReps
      else first :: (second :: rest).eraseReps := by
  rw [List.eraseReps, List.eraseRepsBy, List.eraseRepsBy.loop]
  by_cases same : first = second
  · rw [if_pos same, beq_iff_eq.mpr same]
    exact eraseReps_loop first rest []
  · rw [if_neg same, beq_eq_false_iff_ne.mpr same]
    exact eraseReps_loop second rest [first]

theorem mem_eraseReps [DecidableEq α] {item : α} {items : List α} :
    item ∈ items.eraseReps ↔ item ∈ items := by
  cases items with
  | nil => rfl
  | cons first rest =>
    induction rest generalizing first with
    | nil => rfl
    | cons second rest ih =>
      rw [eraseReps_cons_cons]
      split
      next same => rw [ih, same]; simp
      next => rw [List.mem_cons, ih, ← List.mem_cons]

end

theorem eraseReps_ascending {numbers : List Nat} (sorted : numbers.Pairwise (· ≤ ·)) :
    numbers.eraseReps.Pairwise (· < ·) := by
  cases numbers with
  | nil => exact List.Pairwise.nil
  | cons first rest =>
    induction rest generalizing first with
    | nil => exact List.pairwise_singleton _ first
    | cons second rest ih =>
      obtain ⟨least, ordered⟩ := List.pairwise_cons.mp sorted
      rw [eraseReps_cons_cons]
      split
      next same => exact ih first (same ▸ ordered)
      next differs =>
        refine List.pairwise_cons.mpr ⟨fun number listed => ?_, ih second ordered⟩
        have below : first < second :=
          Nat.lt_of_le_of_ne (least second List.mem_cons_self) differs
        rcases List.mem_cons.mp (mem_eraseReps.mp listed) with rfl | later
        · exact below
        · exact Nat.lt_of_lt_of_le below ((List.pairwise_cons.mp ordered).1 number later)

namespace Container

section

variable {ports : List Nat}

theorem sortPorts_ascending : (sortPorts ports).Pairwise (· < ·) :=
  eraseReps_ascending (mergeSort_ascending (fun port => port) ports)

theorem mem_sortPorts {port : Nat} : port ∈ sortPorts ports ↔ port ∈ ports := by
  rw [sortPorts, mem_eraseReps, List.mem_mergeSort]

theorem sortPorts_perm {ports' : List Nat} (same : ports.Perm ports') :
    sortPorts ports = sortPorts ports' := by
  have sorted := mergeSort_eq_of_perm (fun port => port) same fun _ _ _ _ equal => equal
  exact congrArg List.eraseReps sorted

end

namespace Summary

/-- An address that a network gives; an empty one is none. -/
def Gives (network : String × Option String) (address : String) : Prop :=
  network.2 = some address ∧ address ≠ ""

/-- The network by whose address a container is reached is the first by name that gives one. -/
structure Reaches (networks : List (String × Option String)) (network : String × Option String)
    (address : String) : Prop where
  listed : network ∈ networks
  given : Gives network address
  first : ∀ other ∈ networks, ∀ address, Gives other address → network.1 ≤ other.1

theorem filter_eq_some_iff {network : String × Option String} {address : String} :
    network.2.filter (!·.isEmpty) = some address ↔ Gives network address := by
  simp [Option.filter_eq_some_iff, Gives]

theorem address?_eq_some {summary : Summary} {address : String}
    (found : summary.address? = some address) :
    ∃ network, Reaches (summary.networks.getD []) network address := by
  obtain ⟨before, network, after, split, given, empty⟩ := List.findSome?_eq_some_iff.mp found
  have ordered := mergeSort_ascending Prod.fst (summary.networks.getD [])
  rw [split, List.pairwise_append] at ordered
  have listed {other : String × Option String} :
      other ∈ summary.networks.getD [] ↔ other ∈ before ++ network :: after := by
    rw [← split, List.mem_mergeSort]
  refine ⟨network, listed.mpr (by simp), filter_eq_some_iff.mp given, ?_⟩
  intro other there ip gives
  rcases List.mem_append.mp (listed.mp there) with earlier | later
  · rw [← filter_eq_some_iff, empty other earlier] at gives
    cases gives
  · rcases List.mem_cons.mp later with rfl | later
    · exact String.le_refl other.1
    · exact (List.pairwise_cons.mp ordered.2.1).1 other later

theorem address?_eq_none {summary : Summary} (missing : summary.address? = none) :
    ∀ network ∈ summary.networks.getD [], ∀ address, ¬ Gives network address := by
  intro network listed address gives
  have nothing := List.findSome?_eq_none_iff.mp missing network (List.mem_mergeSort.mpr listed)
  rw [filter_eq_some_iff.mpr gives] at nothing
  cases nothing

theorem address?_perm {left right : Summary}
    (distinct : ((left.networks.getD []).map Prod.fst).Nodup)
    (same : (left.networks.getD []).Perm (right.networks.getD [])) :
    left.address? = right.address? := by
  have sorted := mergeSort_eq_of_perm Prod.fst same fun first atFirst second atSecond =>
    List.inj_on_of_nodup_map distinct atFirst atSecond
  rw [address?, address?, sorted]

/-- Whether a container counts: it has a name, and its image holds a marker if there are any. -/
def Listed (markers : List String) (summary : Summary) : Prop :=
  summary.name ≠ "" ∧
    (markers = [] ∨ ∃ marker ∈ markers, marker.toList <:+: (summary.image.getD "").toList)

/-- What the component of a container is to be, in terms of the list of containers alone. -/
structure Describes (summary : Summary) (component : Component) : Prop where
  name : component.name = summary.name
  type : component.type = Component.typeFor summary.name
  running : component.running = true ↔ summary.state = some "running"
  ascending : component.ports.Pairwise (· < ·)
  ports : ∀ port, port ∈ component.ports ↔ port ∈ summary.ports.getD []
  address : (∃ network, Reaches (summary.networks.getD []) network component.address) ∨
    (∀ network ∈ summary.networks.getD [], ∀ address, ¬ Gives network address) ∧
      component.address = summary.name

theorem listed_iff {markers : List String} {summary : Summary} :
    (!summary.container.name.isEmpty && summary.container.isRelevant markers) = true ↔
      summary.Listed markers := by
  rw [Bool.and_eq_true, Bool.not_eq_true', Bool.eq_false_iff, Ne, String.isEmpty_iff,
    isRelevant, Bool.or_eq_true, List.isEmpty_iff, List.any_eq_true]
  simp only [Text.contains_iff]
  rfl

theorem describes (summary : Summary) : summary.Describes summary.container.component where
  name := rfl
  type := rfl
  running := by
    show (summary.state.getD "" == "running") = true ↔ _
    cases summary.state with
    | none => decide
    | some state => simp
  ascending := sortPorts_ascending
  ports _ := mem_sortPorts
  address := by
    show (∃ network, Reaches _ network (summary.address?.getD summary.name)) ∨ _ ∧
      summary.address?.getD summary.name = summary.name
    cases found : summary.address? with
    | some address => exact .inl (address?_eq_some found)
    | none => exact .inr ⟨address?_eq_none found, rfl⟩

/-- The same container with its ports and its networks, which differ in name, in any order. -/
structure Reordered (left right : Summary) : Prop where
  others : right = { left with ports := right.ports, networks := right.networks }
  ports : Option.Rel List.Perm left.ports right.ports
  networks : Option.Rel List.Perm left.networks right.networks
  distinct : ((left.networks.getD []).map Prod.fst).Nodup

theorem perm_getD {α : Type} {left right : Option (List α)}
    (same : Option.Rel List.Perm left right) : (left.getD []).Perm (right.getD []) := by
  cases same with
  | some same => exact same
  | none => exact List.Perm.nil

theorem Reordered.container_eq {left right : Summary} (same : left.Reordered right) :
    left.container = right.container := by
  have address := address?_perm same.distinct (perm_getD same.networks)
  have ports := sortPorts_perm (perm_getD same.ports)
  rw [container, container, address, ports, same.others]
  rfl

/-- The same containers in any order, each with its ports and networks in any order. -/
def Rearranged (left right : List Summary) : Prop :=
  ∃ middle, left.Perm middle ∧ List.Forall₂ Reordered middle right

theorem containers_eq {left right : List Summary} (same : List.Forall₂ Reordered left right) :
    left.map container = right.map container := by
  induction same with
  | nil => rfl
  | cons first _ ih => rw [List.map_cons, List.map_cons, first.container_eq, ih]

theorem Rearranged.containers_perm {left right : List Summary} (same : Rearranged left right) :
    (left.map container).Perm (right.map container) := by
  obtain ⟨middle, moved, reordered⟩ := same
  rw [← containers_eq reordered]
  exact moved.map container

end Summary

/-- The components of the containers that count. -/
def components (markers : List String) (containers : List Container) : List Component :=
  (containers.filter fun container =>
    !container.name.isEmpty && container.isRelevant markers).map component

section

variable {markers : List String} {summaries : List Summary}

theorem mem_components {component : Component} :
    component ∈ components markers (summaries.map Summary.container) ↔
      ∃ summary ∈ summaries, summary.Listed markers ∧ summary.container.component = component := by
  rw [components, List.mem_map]
  constructor
  · rintro ⟨container, kept, rfl⟩
    obtain ⟨listed, counts⟩ := List.mem_filter.mp kept
    obtain ⟨summary, there, rfl⟩ := List.mem_map.mp listed
    exact ⟨summary, there, Summary.listed_iff.mp counts, rfl⟩
  · rintro ⟨summary, there, counts, rfl⟩
    have listed := List.mem_map_of_mem (f := Summary.container) there
    exact ⟨_, List.mem_filter.mpr ⟨listed, Summary.listed_iff.mpr counts⟩, rfl⟩

theorem components_distinct (markers : List String)
    (distinct : ((summaries.map Summary.name).filter (· ≠ "")).Nodup) :
    ((components markers (summaries.map Summary.container)).map (·.name)).Nodup := by
  have named : (summaries.map Summary.name).filter (· ≠ "") =
      ((summaries.map Summary.container).filter fun container => container.name ≠ "").map
        Container.name := by
    rw [List.filter_map, List.filter_map, List.map_map]
    rfl
  rw [named] at distinct
  rw [components, List.map_map]
  refine distinct.sublist (List.Sublist.map _ (List.monotone_filter_right _ ?_))
  intro container kept
  obtain ⟨nonempty, -⟩ := (Bool.and_eq_true _ _).mp kept
  simpa [String.isEmpty_iff] using nonempty

/--
The topology of a container runtime is that of the containers which have a name and the right image,
each with its ports ascending, reached by its first network with an address, and running as its
state says. Where names differ no order shows in it: neither that of the containers, of their ports
and of their networks, nor that in which the names are looked at for the generation of the core.
-/
theorem discovery_unordered (markers : List String) {summaries : List Summary}
    (distinct : ((summaries.map Summary.name).filter (· ≠ "")).Nodup) :
    let topology := Topology.ofContainers markers (summaries.map Summary.container)
    (∀ name component, topology.get? name = some component →
        ∃ summary ∈ summaries, summary.Listed markers ∧ summary.name = name ∧
          summary.Describes component) ∧
      (∀ summary ∈ summaries, summary.Listed markers →
        ∃ component, topology.get? summary.name = some component ∧ summary.Describes component) ∧
      (∀ names : List String,
        (∀ name, name ∈ names ↔ ∃ summary ∈ summaries, summary.Listed markers ∧
          summary.name = name) →
        topology.deployment = .detect names) ∧
      ∀ others, Summary.Rearranged summaries others →
        Topology.ofContainers markers (others.map Summary.container) = topology := by
  intro topology
  have apart := components_distinct markers distinct
  have known {name : String} {component : Component} :
      topology.get? name = some component ↔
        component ∈ components markers (summaries.map Summary.container) ∧
          component.name = name :=
    Topology.get?_ofComponents apart
  refine ⟨fun name component found => ?_, fun summary there counts => ?_, fun names same => ?_,
    fun others rearranged => ?_⟩
  · obtain ⟨listed, named⟩ := known.mp found
    obtain ⟨summary, there, counts, rfl⟩ := mem_components.mp listed
    exact ⟨summary, there, counts, named, summary.describes⟩
  · have listed := mem_components.mpr ⟨summary, there, counts, rfl⟩
    exact ⟨summary.container.component, known.mpr ⟨listed, rfl⟩, summary.describes⟩
  · have all : topology.names.Perm _ := Topology.names_ofComponents apart
    apply Deployment.detect_congr
    intro name
    rw [same, all.mem_iff, List.mem_map]
    constructor
    · rintro ⟨component, listed, named⟩
      obtain ⟨summary, there, counts, rfl⟩ := mem_components.mp listed
      exact ⟨summary, there, counts, named⟩
    · rintro ⟨summary, there, counts, named⟩
      exact ⟨_, mem_components.mpr ⟨summary, there, counts, rfl⟩, named⟩
  · have moved := rearranged.containers_perm
    exact (Topology.ofComponents_perm apart ((moved.filter _).map component)).symm

end

/-- Two containers: listed the other way round, and one with its ports and networks turned. -/
theorem discovery_unordered_pair :
    let amf : Summary := ⟨none, some ["/amf"], some "running", none, some [8080, 38412, 8080],
      some [("wide", some "10.1.0.7"), ("core", some "10.0.0.7"), ("bare", none)], none⟩
    let turned : Summary := { amf with
      ports := some [38412, 8080, 8080]
      networks := some [("core", some "10.0.0.7"), ("bare", none), ("wide", some "10.1.0.7")] }
    let upf : Summary := ⟨some "7", some ["upf", "/user"], none, some "core/upf", none, none, none⟩
    (([amf, upf].map Summary.name).filter (· ≠ "")).Nodup ∧
      Topology.ofContainers [] ([upf, turned].map Summary.container) =
        Topology.ofContainers [] ([amf, upf].map Summary.container) := by
  intro amf turned upf
  have distinct : (([amf, upf].map Summary.name).filter (· ≠ "")).Nodup := by decide +kernel
  have same : amf.Reordered turned :=
    ⟨rfl, .some (by decide +kernel), .some (by decide +kernel), by decide +kernel⟩
  have kept : upf.Reordered upf := ⟨rfl, .none, .none, by decide +kernel⟩
  refine ⟨distinct, (discovery_unordered [] distinct).2.2.2 _ ⟨[upf, amf], ?_, ?_⟩⟩
  · exact List.Perm.swap upf amf []
  · exact .cons kept (.cons same .nil)

end Container
end CoreWatch
