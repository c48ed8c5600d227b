import CoreWatch.Containers.Basic
import CoreWatch.Proofs.Fleet.Reconcile
import CoreWatch.Proofs.Text.Markers
import CoreWatch.Proofs.Topology.Components

set_option autoImplicit false

/-!
Components that a container runtime lists have a name and a role tag made from it. Such a tag tells
no network function that the name itself does not tell, so no collector is ever made on its account.
-/

namespace CoreWatch

namespace NetworkFunction

theorem ofMarkedName?_eq_some_iff {name : String} {function : NetworkFunction} :
    ofMarkedName? name = some function ↔ Text.FirstMarked nameMarkers name function :=
  Text.find?_marked_eq_some_iff

theorem ofMarkedName?_eq_none_iff {name : String} :
    ofMarkedName? name = none ↔ ∀ marker ∈ nameMarkers, ¬ Text.Occurs marker.1 name :=
  Text.find?_marked_eq_none_iff

/-- Each role tag of a component either stands for no function, or its marker is one of a name. -/
theorem typeTags_harmless : ∀ tag ∈ typeTags,
    ofRoleTag? tag.2 = none ∨ ∃ marker ∈ nameMarkers, marker.1 = tag.1 := by
  decide +kernel

/-- The role tag of a name that shows no function shows none either. -/
theorem ofRoleTag?_typeFor {name : String} (unmarked : ofMarkedName? name = none) :
    ofRoleTag? (Component.typeFor name) = none := by
  unfold Component.typeFor
  cases found : typeTags.find? fun tag => Text.hasMarker tag.1 name with
  | none => decide +kernel
  | some tag =>
    rcases typeTags_harmless tag (List.mem_of_find?_eq_some found) with
      harmless | ⟨marker, listed, same⟩
    · exact harmless
    · have marked := List.find?_some found
      rw [Text.hasMarker_iff, ← same] at marked
      exact absurd marked (ofMarkedName?_eq_none_iff.mp unmarked marker listed)

theorem classify?_typeFor (name : String) :
    classify? name (Component.typeFor name) = ofMarkedName? name := by
  rw [classify?]
  cases marked : ofMarkedName? name with
  | some function => rw [Option.some_or]
  | none => rw [Option.none_or, ofRoleTag?_typeFor marked]

end NetworkFunction

open NetworkFunction

theorem type_ofContainers {markers : List String} {containers : List Container} {name : String}
    {component : Component}
    (found : (Topology.ofContainers markers containers).get? name = some component) :
    component.name = name ∧ component.type = Component.typeFor name := by
  have named : component.name = name := Topology.ofComponents_named _ _ _ found
  obtain ⟨container, -, rfl⟩ := List.mem_map.mp (Topology.mem_of_get?_ofComponents found)
  exact ⟨named, named ▸ rfl⟩

theorem function?_ofContainers {markers : List String} {containers : List Container}
    {name : String} {component : Component}
    (found : (Topology.ofContainers markers containers).get? name = some component) :
    component.function? = ofMarkedName? name := by
  obtain ⟨named, type⟩ := type_ofContainers found
  rw [Component.function?, named, type, classify?_typeFor]

namespace Fleet

/-- What a component wants of its collector it wants while it runs, by its function and address. -/
theorem required_eq_some_iff {topology : Topology} {name : String} {requirement : Requirement} :
    (required topology)[name]? = some requirement ↔
      ∃ component, topology.get? name = some component ∧ component.running = true ∧
        component.function? = some requirement.function ∧
          component.address = requirement.address := by
  rw [required, Std.ExtTreeMap.getElem?_filterMap', Option.bind_eq_some_iff]
  refine exists_congr fun component => and_congr_right fun _ => ?_
  constructor
  · intro wanted
    split at wanted
    next running =>
      obtain ⟨function, told, rfl⟩ := Option.map_eq_some_iff.mp wanted
      exact ⟨running, told, rfl⟩
    next => cases wanted
  · rintro ⟨running, told, address⟩
    rw [if_pos running, told, Option.map_some, address]

/--
The function of a component that has a name and the role tag made from it is that of the first
marker in the name, and there is none without such a marker. So a pass over the containers of a
runtime launches collectors for marked names only, each for the function of the first marker.
-/
theorem runtime_tags_silent (markers : List String) (containers : List Container) :
    let topology := Topology.ofContainers markers containers
    (∀ name function, classify? name (Component.typeFor name) = some function ↔
        Text.FirstMarked nameMarkers name function) ∧
      (∀ name, classify? name (Component.typeFor name) = none ↔
        ∀ marker ∈ nameMarkers, ¬ Text.Occurs marker.1 name) ∧
      (∀ name component, topology.get? name = some component →
        component.type = Component.typeFor name ∧
          component.function? = classify? name (Component.typeFor name)) ∧
      ∀ (fleet : Fleet) launcher write now,
        ∀ spec ∈ (fleet.reconcile launcher write now topology).requests,
          Text.FirstMarked nameMarkers spec.component spec.function := by
  intro topology
  simp only [classify?_typeFor]
  refine ⟨fun _ _ => ofMarkedName?_eq_some_iff, fun _ => ofMarkedName?_eq_none_iff,
    fun name component found => ⟨(type_ofContainers found).2, function?_ofContainers found⟩, ?_⟩
  intro fleet launcher write now spec asked
  rw [requests_reconcile] at asked
  have wanted := (turnOver_consistent fleet launcher now topology).asked spec asked
  obtain ⟨component, found, -, function, -⟩ := required_eq_some_iff.mp wanted
  rw [function?_ofContainers found] at function
  exact ofMarkedName?_eq_some_iff.mp function

/-- Of several markers the first of the table counts, wherever they stand. -/
example :
    classify? "Upf-of-AMF" (Component.typeFor "Upf-of-AMF") = some .amf ∧
      classify? "sgwu-hss" (Component.typeFor "sgwu-hss") = none := by
  decide +kernel

end Fleet
end CoreWatch
