import CoreWatch.Proofs.Maps
import CoreWatch.Topology.Basic

set_option autoImplicit false

/-! Which components of a topology are running. -/

namespace CoreWatch.Topology

/-- Every component is known by its own name. -/
def Named (topology : Topology) : Prop :=
  ∀ (name : String) (component : Component),
    topology.get? name = some component → component.name = name

theorem empty_named : empty.Named := by
  intro name component found
  rw [get?, empty, Std.ExtTreeMap.getElem?_empty] at found
  cases found

theorem insert_named {components : Std.ExtTreeMap String Component}
    (named : Named ⟨components⟩) (component : Component) :
    Named ⟨components.insert component.name component⟩ := by
  intro name other found
  rw [get?, Maps.getElem?_insert] at found
  split at found
  next same =>
    cases found
    exact same
  next => exact named name other found

/-- A topology is made of components, which are known by the names they bring. -/
theorem ofComponents_named (components : List Component) : (ofComponents components).Named := by
  suffices run : ∀ known : Std.ExtTreeMap String Component, Named ⟨known⟩ →
      Named ⟨components.foldl (fun known component => known.insert component.name component)
        known⟩ by
    exact run ∅ empty_named
  induction components with
  | nil => exact fun known named => named
  | cons first rest ih => exact fun known named => ih _ (insert_named named first)

section

variable {topology : Topology}

theorem Named.mem_running (named : topology.Named) {component : Component} :
    component ∈ topology.running ↔
      topology.get? component.name = some component ∧ component.running = true := by
  rw [running, List.mem_filter, Maps.mem_values]
  refine and_congr_left fun _ => ⟨?_, fun found => ⟨component.name, found⟩⟩
  rintro ⟨name, found⟩
  obtain rfl := named _ _ found
  exact found

theorem isRunning_iff {name : String} :
    topology.isRunning name = true ↔
      ∃ component, topology.get? name = some component ∧ component.running = true := by
  rw [isRunning]
  cases topology.get? name with
  | none => simp
  | some component => simp

theorem Named.mem_runningNames (named : topology.Named) {name : String} :
    name ∈ topology.runningNames ↔ topology.isRunning name = true := by
  rw [runningNames, List.mem_map, isRunning_iff]
  constructor
  · rintro ⟨component, listed, rfl⟩
    exact ⟨component, named.mem_running.mp listed⟩
  · rintro ⟨component, found, up⟩
    obtain rfl := named _ _ found
    exact ⟨component, named.mem_running.mpr ⟨found, up⟩, rfl⟩

theorem Named.map_name_values (named : topology.Named) :
    topology.components.values.map (·.name) = topology.names := by
  rw [Maps.values_eq_map_toList, List.map_map, names, ← Std.ExtTreeMap.map_fst_toList_eq_keys]
  refine List.map_congr_left fun entry listed => ?_
  exact named _ _ (Std.ExtTreeMap.mem_toList_iff_getElem?_eq_some.mp listed)

theorem Named.runningNames_ascending (named : topology.Named) :
    topology.runningNames.Pairwise (· < ·) := by
  have ascending := Maps.keys_ascending topology.components
  have kept : topology.runningNames.Sublist topology.names := by
    rw [← named.map_name_values]
    exact List.filter_sublist.map _
  exact ascending.sublist kept

end
end CoreWatch.Topology
