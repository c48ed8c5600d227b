import CoreWatch.Proofs.Double.Rounding
import Mathlib.Data.Nat.Log
import Mathlib.Tactic.Ring

set_option autoImplicit false

/-!
Rounding gives the nearest double: it keeps the order of numbers, and it is off by at most half the
distance between two neighbours.
-/

namespace CoreWatch.Double

/-- The power of two by which the doubles near a quotient are apart, in units. -/
def shiftOf (num den : Nat) : Nat :=
  (num / den).log2 - 52

/-- The distance between the doubles near a quotient, times the divisor. -/
def stepOf (num den : Nat) : Nat :=
  den * 2 ^ shiftOf num den

/-- The rank of the largest double up to a quotient. -/
def floorRank (num den : Nat) : Nat :=
  shiftOf num den * binade + num / stepOf num den

theorem nearestRank_eq (num den : Nat) :
    nearestRank num den =
      if 2 * (num % stepOf num den) < stepOf num den ∨
          2 * (num % stepOf num den) = stepOf num den ∧ floorRank num den % 2 = 0 then
        floorRank num den
      else floorRank num den + 1 := by
  simp only [nearestRank, floorRank, stepOf, shiftOf, Nat.pow_eq, Bool.or_eq_true,
    Bool.and_eq_true, decide_eq_true_eq, beq_iff_eq]
  exact if_congr Iff.rfl rfl rfl

/-- A quotient is either less than half a step above the double below it, or at least that. -/
theorem nearestRank_cases (num den : Nat) :
    nearestRank num den = floorRank num den ∧ 2 * (num % stepOf num den) ≤ stepOf num den ∨
      nearestRank num den = floorRank num den + 1 ∧
        stepOf num den ≤ 2 * (num % stepOf num den) := by
  rw [nearestRank_eq]
  split
  · exact Or.inl ⟨rfl, by omega⟩
  · exact Or.inr ⟨rfl, by omega⟩

/-- The units of a rank that is given by a power of two and a number of its steps. -/
theorem units_place {shift m : Nat} (upper : m ≤ 2 * binade) (normal : shift = 0 ∨ binade ≤ m) :
    units (shift * binade + m) = m * 2 ^ shift := by
  have positive := binade_pos
  by_cases small : shift * binade + m < 2 * binade
  · have none : shift = 0 := by
      by_contra some
      have one : 1 * binade ≤ shift * binade := Nat.mul_le_mul_right binade (by omega)
      omega
    subst none
    rw [units, if_pos small]
    omega
  rw [units, if_neg small, Nat.pow_eq]
  by_cases top : m = 2 * binade
  · have whole : shift * binade + m = (shift + 2) * binade := by
      rw [top, Nat.add_mul]
    rw [whole, Nat.mul_mod_left, Nat.mul_div_cancel _ positive, Nat.add_zero, top,
      Nat.add_sub_assoc (by decide), Nat.pow_add]
    ring
  · have above : binade ≤ m := by
      rcases normal with none | above
      · subst none
        omega
      · exact above
    have split : shift * binade + m = m - binade + binade * (shift + 1) := by
      rw [Nat.mul_add, Nat.mul_one, Nat.mul_comm binade shift]
      omega
    rw [split, Nat.add_mul_mod_self_left, Nat.add_mul_div_left _ _ positive,
      Nat.mod_eq_of_lt (by omega), Nat.div_eq_of_lt (by omega), Nat.zero_add, Nat.add_sub_cancel,
      Nat.add_sub_cancel' above]

/-- A quotient is a number of steps that fits a double, and a full one unless it is small. -/
theorem steps_fit (num den : Nat) :
    num / stepOf num den < 2 * binade ∧
      (shiftOf num den = 0 ∨ binade ≤ num / stepOf num den) := by
  have scale : num / stepOf num den = num / den / 2 ^ shiftOf num den := by
    rw [stepOf, Nat.div_div_eq_div_mul]
  have double : 2 * binade = 2 ^ 53 := rfl
  rw [scale, double, binade_eq]
  have bound : num / den < 2 ^ ((num / den).log2 + 1) := Nat.lt_log2_self
  constructor
  · rw [Nat.div_lt_iff_lt_mul (Nat.two_pow_pos _), ← Nat.pow_add]
    refine Nat.lt_of_lt_of_le bound (Nat.pow_le_pow_right (by decide) ?_)
    rw [shiftOf]
    omega
  · by_cases none : shiftOf num den = 0
    · exact Or.inl none
    · right
      have leading : (num / den).log2 = 52 + shiftOf num den := by
        rw [shiftOf] at none ⊢
        omega
      have nonzero : num / den ≠ 0 := by
        intro zero
        rw [zero, Nat.log2_zero] at leading
        omega
      rw [Nat.le_div_iff_mul_le (Nat.two_pow_pos _), ← Nat.pow_add, ← leading]
      exact Nat.log2_self_le nonzero

theorem stepOf_pos (num : Nat) {den : Nat} (positive : 0 < den) : 0 < stepOf num den :=
  Nat.mul_pos positive (Nat.two_pow_pos _)

/-! Order -/

theorem shiftOf_mono (den : Nat) {num other : Nat} (le : num ≤ other) :
    shiftOf num den ≤ shiftOf other den := by
  have quotients : num / den ≤ other / den := Nat.div_le_div_right le
  have leading : (num / den).log2 ≤ (other / den).log2 := by
    by_cases zero : num / den = 0
    · rw [zero, Nat.log2_zero]
      exact Nat.zero_le _
    · have nonzero : other / den ≠ 0 :=
        Nat.ne_of_gt (Nat.lt_of_lt_of_le (Nat.pos_of_ne_zero zero) quotients)
      exact (Nat.le_log2 nonzero).mpr ((Nat.log2_self_le zero).trans quotients)
  rw [shiftOf, shiftOf]
  omega

/-- Rounding keeps the order of quotients. -/
theorem nearestRank_mono (den : Nat) {num other : Nat} (le : num ≤ other) :
    nearestRank num den ≤ nearestRank other den := by
  have fit := steps_fit num den
  have fit' := steps_fit other den
  have shifts := shiftOf_mono den le
  by_cases same : shiftOf num den = shiftOf other den
  · have steps : stepOf num den = stepOf other den := by rw [stepOf, same, stepOf]
    have counts : num / stepOf num den ≤ other / stepOf other den := by
      rw [steps]
      exact Nat.div_le_div_right le
    have parts := Nat.div_add_mod num (stepOf num den)
    have parts' := Nat.div_add_mod other (stepOf other den)
    rw [nearestRank_eq, nearestRank_eq]
    by_cases level : num / stepOf num den = other / stepOf other den
    · -- Between the same neighbours the larger quotient has the larger rest.
      have rests : num % stepOf num den ≤ other % stepOf other den := by
        rw [level] at parts
        rw [steps] at parts ⊢
        omega
      have floors : floorRank num den = floorRank other den := by
        rw [floorRank, same, level, floorRank]
      rw [floors, steps] at *
      split <;> split <;> omega
    · have floors : floorRank num den + 1 ≤ floorRank other den := by
        rw [floorRank, floorRank, same]
        omega
      split <;> split <;> omega
  · have floors : floorRank num den + 1 ≤ floorRank other den := by
      have full : binade ≤ other / stepOf other den := fit'.2.resolve_left (by omega)
      have next : (shiftOf num den + 1) * binade ≤ shiftOf other den * binade :=
        Nat.mul_le_mul_right binade (by omega)
      rw [floorRank, floorRank]
      rw [Nat.add_mul, Nat.one_mul] at next
      omega
    rw [nearestRank_eq, nearestRank_eq]
    split <;> split <;> omega

theorem nearestRank_le {num den rank : Nat} (positive : 0 < den) (le : num ≤ units rank * den) :
    nearestRank num den ≤ rank := by
  have rounded := nearestRank_mono den le
  rwa [nearestRank_units rank den positive] at rounded

theorem le_nearestRank {num den rank : Nat} (positive : 0 < den) (le : units rank * den ≤ num) :
    rank ≤ nearestRank num den := by
  have rounded := nearestRank_mono den le
  rwa [nearestRank_units rank den positive] at rounded

/-- Every rank is given by a power of two and a number of its steps. -/
theorem exists_place (rank : Nat) :
    ∃ shift m, rank = shift * binade + m ∧ m < 2 * binade ∧ (shift = 0 ∨ binade ≤ m) := by
  have positive := binade_pos
  by_cases small : rank < 2 * binade
  · exact ⟨0, rank, by omega, small, Or.inl rfl⟩
  · have inside := Nat.mod_lt rank positive
    have parts := Nat.div_add_mod' rank binade
    have above : 2 ≤ rank / binade := (Nat.le_div_iff_mul_le positive).mpr (by omega)
    refine ⟨rank / binade - 1, binade + rank % binade, ?_, by omega, Or.inr (by omega)⟩
    rw [Nat.sub_mul, Nat.one_mul]
    have one : 1 * binade ≤ rank / binade * binade := Nat.mul_le_mul_right binade (by omega)
    omega

theorem units_mono : Monotone units := by
  refine monotone_nat_of_le_succ fun rank => ?_
  obtain ⟨shift, m, rfl, upper, normal⟩ := exists_place rank
  rw [Nat.add_assoc, units_place (Nat.le_of_lt upper) normal,
    units_place upper (normal.imp id fun above => Nat.le_succ_of_le above)]
  exact Nat.mul_le_mul_right _ (Nat.le_succ m)

/-! Error -/

/-- A quotient and the double that it is rounded to are at most half a step apart. -/
theorem nearestRank_error (num : Nat) {den : Nat} (positive : 0 < den) :
    2 * (units (nearestRank num den) * den) ≤ 2 * num + stepOf num den ∧
      2 * num ≤ 2 * (units (nearestRank num den) * den) + stepOf num den := by
  obtain ⟨upper, normal⟩ := steps_fit num den
  have parts := Nat.div_add_mod num (stepOf num den)
  have below := Nat.mod_lt num (stepOf_pos num positive)
  have scaled (m : Nat) : m * 2 ^ shiftOf num den * den = stepOf num den * m := by
    rw [stepOf]
    ring
  rcases nearestRank_cases num den with ⟨rank, rest⟩ | ⟨rank, rest⟩
  · rw [rank, floorRank, units_place (Nat.le_of_lt upper) normal, scaled]
    omega
  · have next : floorRank num den + 1 = shiftOf num den * binade + (num / stepOf num den + 1) := by
      rw [floorRank, Nat.add_assoc]
    rw [rank, next, units_place upper (normal.imp id fun above => Nat.le_succ_of_le above), scaled,
      Nat.mul_succ]
    omega

/-- Unless it is very small, a quotient is many times as large as its step. -/
theorem step_le {num den : Nat} (positive : 0 < den) (large : 2 ^ 52 * den ≤ num) :
    2 ^ 52 * stepOf num den ≤ num := by
  rcases (steps_fit num den).2 with none | full
  · rw [stepOf, none, Nat.pow_zero, Nat.mul_one]
    exact large
  · rw [binade_eq] at full
    exact (Nat.le_div_iff_mul_le (stepOf_pos num positive)).mp full

end CoreWatch.Double
