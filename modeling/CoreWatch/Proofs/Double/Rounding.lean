import CoreWatch.Double.Basic
import Mathlib.Algebra.Group.Nat.Defs

set_option autoImplicit false

/-! Rounding leaves alone what is a double already. -/

namespace CoreWatch.Double

theorem binade_eq : binade = 2 ^ 52 := rfl

theorem binade_pos : 0 < binade := by
  rw [binade_eq]
  exact Nat.two_pow_pos 52

theorem log2_scaled {m bits : Nat} (lower : 2 ^ bits ≤ m) (upper : m < 2 ^ (bits + 1))
    (exponent : Nat) : (m * 2 ^ exponent).log2 = bits + exponent := by
  have positive := Nat.two_pow_pos exponent
  have nonzero : m * 2 ^ exponent ≠ 0 := by
    have leading := Nat.two_pow_pos bits
    have product := Nat.mul_pos (Nat.lt_of_lt_of_le leading lower) positive
    omega
  have low := Nat.mul_le_mul_right (2 ^ exponent) lower
  have high := Nat.mul_lt_mul_of_pos_right upper positive
  rw [← Nat.pow_add] at low high
  have next : bits + 1 + exponent = bits + exponent + 1 := by omega
  rw [next] at high
  exact (Nat.log2_eq_iff nonzero).mpr ⟨low, high⟩

/-- What rounding gives when the number divides evenly by the step of its power of two. -/
theorem nearestRank_even {num den m exponent : Nat} (positive : 0 < den)
    (whole : num = m * 2 ^ exponent * den)
    (scale : (m * 2 ^ exponent).log2 - 52 = exponent) :
    nearestRank num den = exponent * binade + m := by
  have step : 0 < den * 2 ^ exponent := Nat.mul_pos positive (Nat.two_pow_pos exponent)
  have regroup : m * 2 ^ exponent * den = m * (den * 2 ^ exponent) := by
    rw [Nat.mul_assoc, Nat.mul_comm (2 ^ exponent) den]
  have quotient : num / den = m * 2 ^ exponent := by
    rw [whole, Nat.mul_div_cancel _ positive]
  unfold nearestRank
  simp only [quotient, scale, Nat.pow_eq]
  rw [whole, regroup, Nat.mul_div_cancel _ step, Nat.mul_mod_left]
  simp only [Nat.mul_zero, step, decide_true, Bool.true_or, ↓reduceIte]

theorem nearestRank_units (rank den : Nat) (positive : 0 < den) :
    nearestRank (units rank * den) den = rank := by
  by_cases small : rank < 2 * binade
  · have own : units rank = rank * 2 ^ 0 := by
      rw [units, if_pos small, Nat.pow_zero, Nat.mul_one]
    have scale : (rank * 2 ^ 0).log2 - 52 = 0 := by
      rw [Nat.pow_zero, Nat.mul_one]
      by_cases none : rank = 0
      · rw [none]
        rfl
      · have short : rank.log2 < 53 := (Nat.log2_lt none).mpr (by rw [binade_eq] at small; omega)
        omega
    rw [nearestRank_even positive (congrArg (· * den) own) scale, Nat.zero_mul, Nat.zero_add]
  · have inside := Nat.mod_lt rank binade_pos
    have own : units rank = (binade + rank % binade) * 2 ^ (rank / binade - 1) := by
      rw [units, if_neg small, Nat.pow_eq]
    have lower : 2 ^ 52 ≤ binade + rank % binade := by
      rw [binade_eq]
      omega
    have upper : binade + rank % binade < 2 ^ (52 + 1) := by
      rw [binade_eq] at inside ⊢
      omega
    have leading := log2_scaled lower upper (rank / binade - 1)
    rw [nearestRank_even positive (congrArg (· * den) own) (by omega)]
    have parts := Nat.div_add_mod rank binade
    have above : 1 ≤ rank / binade := (Nat.le_div_iff_mul_le binade_pos).mpr (by omega)
    have split : rank / binade * binade = (rank / binade - 1) * binade + binade := by
      rw [← Nat.succ_mul]
      congr 1
      omega
    rw [Nat.mul_comm] at parts
    omega

/-- A double, written as a quotient of units in any way, is rounded to itself. -/
theorem ofUnits_units (negative : Bool) (rank : Fin topRank) {den : Nat} (positive : 0 < den) :
    ofUnits negative (units rank * den) den = .finite negative rank := by
  unfold ofUnits
  simp only [nearestRank_units rank den positive, rank.isLt, ↓reduceDIte]

/-- The sign has no part in rounding. -/
theorem ofUnits_finite {num den : Nat} {rank : Fin topRank} (negative other : Bool)
    (rounded : ofUnits negative num den = .finite negative rank) :
    ofUnits other num den = .finite other rank := by
  unfold ofUnits at rounded ⊢
  by_cases inside : nearestRank num den < topRank
  · simp only [inside, ↓reduceDIte] at rounded ⊢
    cases rounded
    rfl
  · simp only [inside, ↓reduceDIte] at rounded
    cases rounded

end CoreWatch.Double
