import CoreWatch.Prober.History
import CoreWatch.Proofs.Double.Roundoff

set_option autoImplicit false

/-!
The success rate of a component: it is never below zero nor above a hundred, and differs from the
exact percentage only by what the rounding of its few operations costs.
-/

namespace CoreWatch.Prober

open Double

theorem percentage_zero {whole : Nat} (positive : 0 < whole) (small : whole < 2 ^ 64) :
    percentage 0 whole = .zero false := by
  obtain ⟨rank, rounded, low, -⟩ := ofNat_spec positive small
  have nonzero := ne_zero_of_powerRank_le low
  have unitsB : 0 < units rank := Nat.lt_of_lt_of_le Double.one_pos (one_le_units low)
  have numerator : ofNat 0 = .zero false := by
    rw [ofNat, Nat.zero_mul, ofUnits_zero false Nat.one_pos]
  have quotient : div (.zero false) (ofNat whole) = .zero false := by
    rw [rounded, Double.zero, div, if_neg nonzero]
    simp only [units_zero, Nat.zero_mul, bne_self_eq_false]
    exact ofUnits_zero false unitsB
  rw [percentage, numerator, quotient, ofNat_hundred, Double.zero, mul]
  simp only [units_zero, Nat.zero_mul, bne_self_eq_false]
  exact ofUnits_zero false Double.one_pos

/-- A percentage of a 64-bit total is a number from 0 to 100, off by at most the four roundings. -/
theorem percentage_spec {part whole : Nat} (positive : 0 < whole) (le : part ≤ whole)
    (small : whole < 2 ^ 64) :
    ∃ rate : ℚ, (percentage part whole).toRat? = some rate ∧ 0 ≤ rate ∧ rate ≤ 100 ∧
      Within 4 rate (100 * part / whole) := by
  have ones : (0 : ℚ) < one := Nat.cast_pos.mpr Double.one_pos
  by_cases none : part = 0
  · subst none
    refine ⟨0, ?_, le_rfl, by norm_num, ?_⟩
    · rw [percentage_zero positive small, toRat?_zero]
    · simp [Within]
  obtain ⟨share, divided, normal, most, near⟩ := share_spec (Nat.pos_of_ne_zero none) le small
  obtain ⟨rank, product, bound, within⟩ := mul_hundred_spec normal most
  refine ⟨units rank / one, ?_, div_nonneg (Nat.cast_nonneg _) (le_of_lt ones), ?_, ?_⟩
  · rw [percentage, divided, product, toRat?]
    simp only [Bool.false_eq_true, ↓reduceIte, one_mul]
  · rw [div_le_iff₀ ones]
    exact_mod_cast bound
  · have hundred : (0 : ℚ) ≤ 100 := by norm_num
    have total := (within.trans (near.scale hundred)).scale (inv_nonneg.mpr (le_of_lt ones))
    rw [inv_mul_eq_div, inv_mul_eq_div, ← mul_assoc, mul_div_cancel_right₀ _ (ne_of_gt ones),
      mul_div_assoc'] at total
    exact total

end CoreWatch.Prober
