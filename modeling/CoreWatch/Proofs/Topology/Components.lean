import CoreWatch.Proofs.Topology.Running
import Mathlib.Data.List.Induction

set_option autoImplicit false

/-!
The topology that a list of components makes: it knows nothing but these components, and where their
names differ it knows all of them, in whatever order they are listed.
-/

namespace CoreWatch

namespace Deployment

/-- It matters which names there are, not the order in which they are looked at. -/
theorem detect_congr {left right : List String} (same : ∀ name, name ∈ left ↔ name ∈ right) :
    detect left = detect right := by
  have marked (markers : List String) :
      left.any (isMarked markers) = right.any (isMarked markers) := by
    rw [Bool.eq_iff_iff, List.any_eq_true, List.any_eq_true]
    simp only [same]
  rw [detect, detect, marked fourGMarkers, marked fiveGMarkers]

end Deployment

namespace Topology

theorem eq_of_get? {left right : Topology} (same : ∀ name, left.get? name = right.get? name) :
    left = right := by
  cases left
  cases right
  rw [mk.injEq]
  exact Std.ExtTreeMap.ext_getElem? same

theorem get?_ofComponents_concat (components : List Component) (component : Component)
    (name : String) :
    (ofComponents (components ++ [component])).get? name =
      if component.name = name then some component else (ofComponents components).get? name := by
  rw [ofComponents, List.foldl_concat]
  exact Maps.getElem?_insert ..

theorem mem_of_get?_ofComponents {components : List Component} {name : String}
    {component : Component} (found : (ofComponents components).get? name = some component) :
    component ∈ components := by
  induction components using List.reverseRecOn with
  | nil =>
    rw [ofComponents, List.foldl_nil, get?, Std.ExtTreeMap.getElem?_empty] at found
    cases found
  | append_singleton components last ih =>
    rw [get?_ofComponents_concat] at found
    split at found
    · cases found
      exact List.mem_append_right _ (List.mem_singleton_self _)
    · exact List.mem_append_left _ (ih found)

/-- Components with different names are all known, each by its name. -/
theorem get?_ofComponents {components : List Component}
    (distinct : (components.map (·.name)).Nodup) {name : String} {component : Component} :
    (ofComponents components).get? name = some component ↔
      component ∈ components ∧ component.name = name := by
  constructor
  · intro found
    exact ⟨mem_of_get?_ofComponents found, ofComponents_named components name component found⟩
  · rintro ⟨listed, rfl⟩
    induction components using List.reverseRecOn with
    | nil => cases listed
    | append_singleton components last ih =>
      rw [List.map_append, List.nodup_append] at distinct
      obtain ⟨others, -, apart⟩ := distinct
      rw [get?_ofComponents_concat]
      rcases List.mem_append.mp listed with earlier | newest
      · have differs : component.name ≠ last.name :=
          apart _ (List.mem_map_of_mem earlier) _ (List.mem_map_of_mem (List.mem_singleton_self _))
        rw [if_neg differs.symm]
        exact ih others earlier
      · rw [List.mem_singleton.mp newest, if_pos rfl]

theorem ofComponents_perm {left right : List Component}
    (distinct : (left.map (·.name)).Nodup) (same : left.Perm right) :
    ofComponents left = ofComponents right := by
  have distinct' : (right.map (·.name)).Nodup := (same.map _).nodup_iff.mp distinct
  apply eq_of_get?
  intro name
  apply Option.ext
  intro component
  rw [get?_ofComponents distinct, get?_ofComponents distinct', same.mem_iff]

theorem names_ofComponents {components : List Component}
    (distinct : (components.map (·.name)).Nodup) :
    (ofComponents components).names.Perm (components.map (·.name)) := by
  have ascending := Maps.keys_ascending (ofComponents components).components
  have once : (ofComponents components).names.Nodup :=
    ascending.imp fun before => String.ne_of_lt before
  refine (List.perm_ext_iff_of_nodup once distinct).mpr fun name => ?_
  rw [names, Std.ExtTreeMap.mem_keys, Maps.mem_iff_exists, List.mem_map]
  exact exists_congr fun component => get?_ofComponents distinct

end Topology
end CoreWatch
