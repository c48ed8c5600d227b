import CoreWatch.Collector.Registry
import CoreWatch.Proofs.Exposition.LabelSets

set_option autoImplicit false

/-!
The labels of a sample that a registry keeps. Two samples belong to one series exactly when their
label sets agree apart from the two labels that the registry sets itself.
-/

namespace CoreWatch.Collector.Registry

open Exposition

/-- Whether a label is one of those that upstream sets. -/
def isOwn (name : String) : Bool :=
  name != componentLabel && name != functionLabel

/-- A label set without the labels that the registry sets. -/
def bare (labels : LabelSet) : LabelSet :=
  labels.filter fun name _ => isOwn name

/-- Two label sets have the same labels apart from those that the registry sets. -/
def Agree (first second : LabelSet) : Prop :=
  ∀ name : String, name ≠ componentLabel → name ≠ functionLabel → first[name]? = second[name]?

theorem isOwn_iff {name : String} :
    isOwn name = true ↔ name ≠ componentLabel ∧ name ≠ functionLabel := by
  rw [isOwn, Bool.and_eq_true, bne_iff_ne, bne_iff_ne]

theorem getElem?_bare (labels : LabelSet) (name : String) :
    (bare labels)[name]? = if isOwn name then labels[name]? else none := by
  rw [bare, Std.ExtTreeMap.getElem?_filter']
  cases labels[name]? with
  | none => rw [Option.filter_none, ite_self]
  | some value => rw [Option.filter_some]

theorem ownLabels_eq_toLabels (labels : LabelSet) : ownLabels labels = (bare labels).toLabels := by
  rw [ownLabels, LabelSet.toLabels, LabelSet.toLabels, bare, Std.ExtTreeMap.toList_filter,
    List.filter_map]
  rfl

theorem ofLabels_ownLabels (labels : LabelSet) :
    LabelSet.ofLabels (ownLabels labels) = bare labels := by
  rw [ownLabels_eq_toLabels, LabelSet.ofLabels_toLabels]

theorem agree_iff_bare {first second : LabelSet} :
    Agree first second ↔ bare first = bare second := by
  constructor
  · intro agree
    apply Std.ExtTreeMap.ext_getElem?
    intro name
    rw [getElem?_bare, getElem?_bare]
    split
    · rename_i own
      obtain ⟨component, function⟩ := isOwn_iff.mp own
      exact agree name component function
    · rfl
  · intro same name component function
    have own : isOwn name = true := isOwn_iff.mpr ⟨component, function⟩
    have here : (bare first)[name]? = (bare second)[name]? := by rw [same]
    rw [getElem?_bare, getElem?_bare, if_pos own, if_pos own] at here
    exact here

/-- The labels that are kept tell exactly what label sets do not agree on. -/
theorem ownLabels_eq_iff {first second : LabelSet} :
    ownLabels first = ownLabels second ↔ Agree first second := by
  rw [agree_iff_bare]
  constructor
  · intro same
    rw [← ofLabels_ownLabels, same, ofLabels_ownLabels]
  · intro same
    rw [ownLabels_eq_toLabels, same, ownLabels_eq_toLabels]

instance (first second : LabelSet) : Decidable (Agree first second) :=
  decidable_of_iff _ ownLabels_eq_iff

end CoreWatch.Collector.Registry
