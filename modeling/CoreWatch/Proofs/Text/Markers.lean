import CoreWatch.Text.Ascii
import Mathlib.Data.List.Infix

set_option autoImplicit false

/-!
Markers inside names: where one occurs, and which entry of a table of markers is the first whose
marker does.
-/

namespace CoreWatch.Text

theorem contains_iff {marker text : List Char} :
    contains marker text = true ↔ marker <:+: text := by
  induction text with
  | nil => rw [contains, List.isEmpty_iff, List.infix_nil]
  | cons c rest ih =>
    rw [contains, Bool.or_eq_true, List.isPrefixOf_iff_prefix, ih, List.infix_cons_iff]

/-- The name, its capital letters made small, holds the marker somewhere. -/
def Occurs (marker name : String) : Prop :=
  marker.toList <:+: lower name.toList

theorem hasMarker_iff {marker name : String} : hasMarker marker name = true ↔ Occurs marker name :=
  contains_iff

section

variable {α : Type} {table : List (String × α)} {name : String}

/-- Of the entries of a table whose marker occurs in a name, the first one has the value. -/
def FirstMarked (table : List (String × α)) (name : String) (value : α) : Prop :=
  ∃ before marker after, table = before ++ (marker, value) :: after ∧ Occurs marker name ∧
    ∀ earlier ∈ before, ¬ Occurs earlier.1 name

theorem find?_marked_eq_some_iff {value : α} :
    (table.find? fun entry => hasMarker entry.1 name).map (·.2) = some value ↔
      FirstMarked table name value := by
  constructor
  · intro found
    obtain ⟨⟨marker, _⟩, first, rfl⟩ := Option.map_eq_some_iff.mp found
    obtain ⟨occurs, before, after, split, others⟩ := List.find?_eq_some_iff_append.mp first
    refine ⟨before, marker, after, split, hasMarker_iff.mp occurs, fun earlier listed => ?_⟩
    have unmarked := others earlier listed
    rw [Bool.not_eq_true'] at unmarked
    rw [← hasMarker_iff, unmarked]
    exact Bool.false_ne_true
  · rintro ⟨before, marker, after, split, occurs, others⟩
    refine Option.map_eq_some_iff.mpr ⟨(marker, value), ?_, rfl⟩
    refine List.find?_eq_some_iff_append.mpr
      ⟨hasMarker_iff.mpr occurs, before, after, split, fun earlier listed => ?_⟩
    have unmarked := others earlier listed
    rw [← hasMarker_iff, Bool.not_eq_true] at unmarked
    rw [unmarked]
    rfl

theorem find?_marked_eq_none_iff :
    (table.find? fun entry => hasMarker entry.1 name).map (·.2) = none ↔
      ∀ entry ∈ table, ¬ Occurs entry.1 name := by
  rw [Option.map_eq_none_iff, List.find?_eq_none]
  simp only [hasMarker_iff]

end
end CoreWatch.Text
