import CoreWatch.Exposition.Basic
import CoreWatch.Proofs.Maps
import Mathlib.Data.List.Induction

set_option autoImplicit false

/-! Label sets and the sequences of labels that they are read from and written as. -/

namespace CoreWatch.Exposition.LabelSet

theorem mem_toLabels {labels : LabelSet} {label : Label} :
    label ∈ labels.toLabels ↔ labels[label.name]? = some label.value := by
  rw [← Std.ExtTreeMap.mem_toList_iff_getElem?_eq_some, toLabels, List.mem_map]
  constructor
  · rintro ⟨entry, listed, rfl⟩
    exact listed
  · intro listed
    exact ⟨_, listed, rfl⟩

theorem nodup_names (labels : LabelSet) : (labels.toLabels.map (·.name)).Nodup := by
  rw [toLabels, List.map_map]
  exact Maps.nodup_toList_keys labels

/-- Labels with different names all come through, beside what was there under other names. -/
theorem getElem?_insertAll {labels : List Label} (distinct : (labels.map (·.name)).Nodup)
    (base : LabelSet) (name value : String) :
    (labels.foldl (fun set label => set.insert label.name label.value) base)[name]? = some value ↔
      ⟨name, value⟩ ∈ labels ∨
        (∀ label ∈ labels, label.name ≠ name) ∧ base[name]? = some value := by
  induction labels generalizing base with
  | nil => simp only [List.foldl_nil, List.not_mem_nil, false_imp_iff, implies_true, true_and,
      false_or]
  | cons label rest ih =>
    rw [List.map_cons, List.nodup_cons] at distinct
    rw [List.foldl_cons, ih distinct.2, List.forall_mem_cons, List.mem_cons]
    by_cases same : label.name = name
    · have absent : ∀ other ∈ rest, other.name ≠ name := by
        intro other listed again
        apply distinct.1
        rw [same, ← again]
        exact List.mem_map_of_mem listed
      have unlisted : ⟨name, value⟩ ∉ rest := fun listed => absent _ listed rfl
      subst same
      rw [Std.ExtTreeMap.getElem?_insert_self]
      obtain ⟨labelName, labelValue⟩ := label
      simp only [unlisted, or_false, false_or, ne_eq, not_true_eq_false, false_and, Label.mk.injEq,
        true_and, Option.some.injEq]
      exact ⟨fun found => found.2.symm, fun equal => ⟨absent, equal.symm⟩⟩
    · have unequal : (⟨name, value⟩ : Label) ≠ label := by
        rintro rfl
        exact same rfl
      rw [Maps.getElem?_insert, if_neg same]
      simp only [unequal, false_or, ne_eq, same, not_false_eq_true, true_and]

theorem getElem?_ofLabels {labels : List Label} (distinct : (labels.map (·.name)).Nodup)
    (name value : String) :
    (ofLabels labels)[name]? = some value ↔ ⟨name, value⟩ ∈ labels := by
  rw [ofLabels, getElem?_insertAll distinct, Std.ExtTreeMap.getElem?_empty]
  simp only [reduceCtorEq, and_false, or_false]

/-- The value of the last label of a name. -/
def lastValue? (name : String) (labels : List Label) : Option String :=
  (labels.reverse.find? fun label => label.name = name).map (·.value)

/-- Of labels with one name the set has the last. -/
theorem getElem?_ofLabels_last (labels : List Label) (name : String) :
    (ofLabels labels)[name]? = lastValue? name labels := by
  induction labels using List.reverseRecOn with
  | nil => exact Std.ExtTreeMap.getElem?_empty
  | append_singleton labels label ih =>
    have last : ofLabels (labels ++ [label]) = (ofLabels labels).insert label.name label.value := by
      rw [ofLabels, List.foldl_append]
      rfl
    rw [last, Maps.getElem?_insert, ih, lastValue?, lastValue?, List.reverse_append,
      List.reverse_singleton, List.singleton_append, List.find?_cons]
    by_cases same : label.name = name
    · simp only [same, ↓reduceIte, decide_true, Option.map_some]
    · simp only [same, ↓reduceIte, decide_false]

/-- A set has no other names than the sequence it comes from. -/
theorem name_of_mem_ofLabels {labels : List Label} {name value : String}
    (found : (ofLabels labels)[name]? = some value) : ∃ label ∈ labels, label.name = name := by
  rw [getElem?_ofLabels_last] at found
  obtain ⟨label, last, _⟩ := Option.map_eq_some_iff.mp found
  have named := List.find?_some last
  exact ⟨label, List.mem_reverse.mp (List.mem_of_find?_eq_some last), of_decide_eq_true named⟩

theorem getElem?_ofLabels_of_notMem {labels : List Label} {name : String}
    (missing : name ∉ labels.map (·.name)) : (ofLabels labels)[name]? = none := by
  rw [Option.eq_none_iff_forall_ne_some]
  intro value found
  obtain ⟨label, listed, named⟩ := name_of_mem_ofLabels found
  exact missing (named ▸ List.mem_map_of_mem listed)

/-- A set is known by what it answers. -/
theorem eq_of_getElem? {first second : LabelSet}
    (same : ∀ name value : String, first[name]? = some value ↔ second[name]? = some value) :
    first = second := by
  apply Std.ExtTreeMap.ext_getElem?
  intro name
  apply Option.ext
  exact same name

theorem ofLabels_toLabels (labels : LabelSet) : ofLabels labels.toLabels = labels := by
  apply eq_of_getElem?
  intro name value
  rw [getElem?_ofLabels (nodup_names labels), mem_toLabels]

end CoreWatch.Exposition.LabelSet
