import CoreWatch.Double.Decimal
import Mathlib.Data.List.TakeWhile

set_option autoImplicit false

/-! Decimals written without an exponent, and read again. -/

namespace CoreWatch.Decimal

theorem digitsValue_eq (digits : List Char) : digitsValue digits = Nat.ofDigitChars 10 digits 0 :=
  Nat.ofDigitChars_eq_foldl.symm

theorem digitsValue_toDigits (n : Nat) : digitsValue (Nat.toDigits 10 n) = n := by
  rw [digitsValue_eq, Nat.ofDigitChars_toDigits (by decide) (by decide)]

theorem digitsValue_zeros (count : Nat) (digits : List Char) :
    digitsValue ('0' :: List.replicate count '0' ++ digits) = digitsValue digits := by
  rw [← List.replicate_succ, digitsValue_eq, digitsValue_eq, Nat.ofDigitChars_append,
    Nat.ofDigitChars_replicate_zero, Nat.mul_zero]

theorem isDigit_toDigits (n : Nat) : ∀ c ∈ Nat.toDigits 10 n, c.isDigit = true :=
  fun _ listed => Nat.isDigit_of_mem_toDigits (by decide) (by decide) listed

theorem isDigit_zeros (count : Nat) : ∀ c ∈ List.replicate count '0', c.isDigit = true := by
  intro c listed
  rw [(List.mem_replicate.mp listed).2]
  rfl

/-- With places after the point, a text is digits before it and one digit after it for each. -/
theorem plain_point {d : Decimal} (places : d.power < 0) :
    ∃ whole fraction, d.plain = whole ++ '.' :: fraction ∧ whole ≠ [] ∧
      (∀ c ∈ whole ++ fraction, c.isDigit = true) ∧ (fraction.length : Int) = -d.power ∧
      digitsValue (whole ++ fraction) = d.digits := by
  have negative : ¬ 0 ≤ d.power := by omega
  have digit := isDigit_toDigits d.digits
  unfold plain
  simp only [negative, ↓reduceIte]
  by_cases inside : (-d.power).toNat < (Nat.toDigits 10 d.digits).length
  · simp only [inside, ↓reduceIte]
    refine ⟨_, _, rfl, ?_, ?_, ?_, ?_⟩
    · rw [← List.length_pos_iff, List.length_take]
      omega
    · rw [List.take_append_drop]
      exact digit
    · rw [List.length_drop]
      omega
    · rw [List.take_append_drop, digitsValue_toDigits]
  · simp only [inside, ↓reduceIte]
    refine ⟨['0'], List.replicate ((-d.power).toNat - (Nat.toDigits 10 d.digits).length) '0' ++
      Nat.toDigits 10 d.digits, rfl, List.cons_ne_nil _ _, ?_, ?_, ?_⟩
    · rw [List.forall_mem_append, List.forall_mem_append, List.forall_mem_singleton]
      exact ⟨rfl, isDigit_zeros _, digit⟩
    · rw [List.length_append, List.length_replicate]
      omega
    · rw [← List.append_assoc, List.singleton_append, digitsValue_zeros, digitsValue_toDigits]

/-- Without places after the point, a text is digits only. -/
theorem plain_whole {d : Decimal} (whole : 0 ≤ d.power) :
    d.plain ≠ [] ∧ ∀ c ∈ d.plain, c.isDigit = true := by
  unfold plain
  simp only [whole, ↓reduceIte]
  constructor
  · exact List.append_ne_nil_of_left_ne_nil Nat.toDigits_ne_nil _
  · rw [List.forall_mem_append]
    exact ⟨isDigit_toDigits d.digits, isDigit_zeros _⟩

theorem plain_head (d : Decimal) : ∃ c rest, d.plain = c :: rest ∧ c.isDigit = true := by
  by_cases whole : 0 ≤ d.power
  · obtain ⟨some, digit⟩ := plain_whole whole
    obtain ⟨c, rest, same⟩ := List.exists_cons_of_ne_nil some
    exact ⟨c, rest, same, digit c (by rw [same]; exact List.mem_cons_self)⟩
  · obtain ⟨before, fraction, same, some, digit, _⟩ := plain_point (show d.power < 0 by omega)
    obtain ⟨c, rest, rfl⟩ := List.exists_cons_of_ne_nil some
    exact ⟨c, rest ++ '.' :: fraction, same, digit c List.mem_cons_self⟩

theorem plain_chars (d : Decimal) : ∀ c ∈ d.plain, c.isDigit = true ∨ c = '.' := by
  by_cases whole : 0 ≤ d.power
  · exact fun c listed => Or.inl ((plain_whole whole).2 c listed)
  · obtain ⟨before, fraction, same, _, digit, _⟩ := plain_point (show d.power < 0 by omega)
    rw [List.forall_mem_append] at digit
    rw [same, List.forall_mem_append, List.forall_mem_cons]
    exact ⟨fun c listed => Or.inl (digit.1 c listed), Or.inr rfl,
      fun c listed => Or.inl (digit.2 c listed)⟩

theorem read?_point {whole fraction : List Char} (some : whole ≠ [])
    (digit : ∀ c ∈ whole ++ fraction, c.isDigit = true) :
    read? (whole ++ '.' :: fraction) =
      Option.some ⟨digitsValue (whole ++ fraction), -(fraction.length : Int)⟩ := by
  rw [List.forall_mem_append] at digit
  have before : takeDigits (whole ++ '.' :: fraction) = (whole, '.' :: fraction) := by
    rw [takeDigits, List.takeWhile_append_of_pos digit.1, List.dropWhile_append_of_pos digit.1,
      List.takeWhile_cons_of_neg (by decide), List.dropWhile_cons_of_neg (by decide),
      List.append_nil]
  have after : takeDigits fraction = (fraction, []) := by
    rw [takeDigits, List.takeWhile_eq_self_iff.mpr digit.2, List.dropWhile_eq_nil_iff.mpr digit.2]
  have there : whole.isEmpty = false := List.isEmpty_eq_false_iff.mpr some
  unfold read?
  simp only [before, takeFraction, after, there, Bool.false_and, Bool.false_eq_true, ↓reduceIte,
    Option.map_some, Int.zero_sub]

theorem read?_plain {d : Decimal} (places : d.power < 0) : read? d.plain = some d := by
  obtain ⟨whole, fraction, same, there, digit, length, value⟩ := plain_point places
  rw [same, read?_point there digit, value, length, Int.neg_neg]

end CoreWatch.Decimal
