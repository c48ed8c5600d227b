import CoreWatch.Exposition.SampleLine
import CoreWatch.Proofs.Text.Blanks

set_option autoImplicit false

/-! What the names of labels and metrics are made of, and where they end. -/

namespace CoreWatch.Exposition

open Text

/-- What names are made of: letters, digits, underscores and colons. -/
def isNameChar (c : Char) : Bool :=
  c.isAlphanum || c = '_' || c = ':'

theorem isNameChar_labelName {name : List Char} (valid : isLabelName name = true) :
    ∀ c ∈ name, isNameChar c = true := by
  cases name with
  | nil => exact fun c listed => absurd listed List.not_mem_nil
  | cons first rest =>
    simp only [isLabelName, Bool.and_eq_true, List.all_eq_true, Bool.or_eq_true,
      decide_eq_true_eq] at valid
    simp only [isNameChar, Bool.or_eq_true, decide_eq_true_eq, List.forall_mem_cons,
      Char.isAlphanum] at valid ⊢
    exact ⟨Or.inl (valid.1.imp_left Or.inl), fun c listed => Or.inl (valid.2 c listed)⟩

theorem isNameChar_metricName {name : List Char} (valid : isMetricName name = true) :
    ∀ c ∈ name, isNameChar c = true := by
  cases name with
  | nil => exact fun c listed => absurd listed List.not_mem_nil
  | cons first rest =>
    simp only [isMetricName, Bool.and_eq_true, List.all_eq_true, Bool.or_eq_true,
      decide_eq_true_eq] at valid
    simp only [isNameChar, Bool.or_eq_true, decide_eq_true_eq, List.forall_mem_cons,
      Char.isAlphanum] at valid ⊢
    exact ⟨valid.1.imp_left (Or.imp_left Or.inl), valid.2⟩

theorem toNat_alphanum {c : Char} (letter : c.isAlphanum = true) :
    0x20 < c.toNat ∧ c.toNat < 0x7F := by
  have ranges : c.isAlphanum = (decide (c.val ≥ 65 ∧ c.val ≤ 90) ||
      (c.val ≥ 97 && c.val ≤ 122) || (c.val ≥ 48 && c.val ≤ 57)) := rfl
  simp only [ranges, Bool.or_eq_true, Bool.and_eq_true, decide_eq_true_eq, ge_iff_le,
    UInt32.le_iff_toNat_le] at letter
  change ((65 ≤ c.toNat ∧ c.toNat ≤ 90) ∨ 97 ≤ c.toNat ∧ c.toNat ≤ 122) ∨
    48 ≤ c.toNat ∧ c.toNat ≤ 57 at letter
  omega

theorem isBlank_nameChar {c : Char} (inner : isNameChar c = true) : isBlank c = false := by
  simp only [isNameChar, Bool.or_eq_true, decide_eq_true_eq] at inner
  rcases inner with (letter | rfl) | rfl
  · exact isBlank_printed (toNat_alphanum letter).1 (toNat_alphanum letter).2
  · rfl
  · rfl

/-- A character that is no part of names is another one than those that are. -/
theorem ne_of_isNameChar {c other : Char} (inner : isNameChar c = true)
    (outer : isNameChar other = false) : c ≠ other := by
  rintro rfl
  rw [inner] at outer
  cases outer

theorem continuesName_nameChar {c : Char} (inner : isNameChar c = true) :
    continuesName c = true := by
  have equals : c ≠ '=' := ne_of_isNameChar inner rfl
  unfold continuesName
  rw [isBlank_nameChar inner, bne_iff_ne.mpr equals]
  rfl

theorem continuesMetricName_nameChar {c : Char} (inner : isNameChar c = true) :
    continuesMetricName c = true := by
  have brace : c ≠ '\x7b' := ne_of_isNameChar inner rfl
  unfold continuesMetricName
  rw [isBlank_nameChar inner, bne_iff_ne.mpr brace]
  rfl

/-- The first character of the name of a metric is neither a blank nor the sign of a comment. -/
theorem head_metricName {name : List Char} (valid : isMetricName name = true) :
    ∃ c rest, name = c :: rest ∧ isBlank c = false ∧ c ≠ '#' := by
  cases name with
  | nil => cases valid
  | cons c rest =>
    have inner := isNameChar_metricName valid c List.mem_cons_self
    exact ⟨c, rest, rfl, isBlank_nameChar inner, ne_of_isNameChar inner rfl⟩

/-- The name of a label ends where a blank or an equals sign follows. -/
theorem splitLabelName {name : List Char} (valid : isLabelName name = true) {rest : List Char}
    (stop : ∀ c ∈ rest.head?, continuesName c = false) :
    (name ++ rest).takeWhile continuesName = name ∧
      (name ++ rest).dropWhile continuesName = rest :=
  takeWhile_append_stop
    (fun c listed => continuesName_nameChar (isNameChar_labelName valid c listed)) stop

/-- The name of a metric ends where a blank or a brace follows. -/
theorem splitMetricName {name : List Char} (valid : isMetricName name = true) {rest : List Char}
    (stop : ∀ c ∈ rest.head?, continuesMetricName c = false) :
    (name ++ rest).takeWhile continuesMetricName = name ∧
      (name ++ rest).dropWhile continuesMetricName = rest :=
  takeWhile_append_stop
    (fun c listed => continuesMetricName_nameChar (isNameChar_metricName valid c listed)) stop

end CoreWatch.Exposition
