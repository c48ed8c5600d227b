import CoreWatch.Proofs.Double.Nearness
import Mathlib.Tactic.Linarith
import Mathlib.Tactic.NormNum

set_option autoImplicit false

/-!
What a few rounded operations cost: numbers of 64 bits, the share of one in another and a hundred
times that share differ from the exact ones by a known part of them.
-/

namespace CoreWatch.Double

/-- The number that a double stands for, if it is finite. -/
def toRat? : Double → Option ℚ
  | .finite negative rank => some ((if negative then -1 else 1) * (units rank / one))
  | _ => none

/-- What one rounding may cost, as a part of the number. -/
def roundoff : ℚ := 1 / 2 ^ 53

theorem roundoff_lt_one : roundoff < 1 := by
  rw [roundoff]
  norm_num

/-- Two numbers that are apart by no more than a few roundings, in either direction. -/
def Within (roundings : Nat) (x y : ℚ) : Prop :=
  (1 - roundoff) ^ roundings * y ≤ x ∧ (1 - roundoff) ^ roundings * x ≤ y

namespace Within

variable {roundings more : Nat} {x y z w : ℚ}

theorem keep_nonneg (roundings : Nat) : (0 : ℚ) ≤ (1 - roundoff) ^ roundings :=
  pow_nonneg (sub_nonneg.mpr (le_of_lt roundoff_lt_one)) roundings

theorem trans (first : Within roundings x y) (second : Within more y z) :
    Within (roundings + more) x z := by
  have up := mul_le_mul_of_nonneg_left second.1 (keep_nonneg roundings)
  have down := mul_le_mul_of_nonneg_left first.2 (keep_nonneg more)
  rw [← mul_assoc] at up down
  rw [← pow_add] at up
  rw [← pow_add, Nat.add_comm] at down
  exact ⟨up.trans first.1, down.trans second.2⟩

theorem scale {factor : ℚ} (nonneg : 0 ≤ factor) (within : Within roundings x y) :
    Within roundings (factor * x) (factor * y) := by
  have up := mul_le_mul_of_nonneg_left within.1 nonneg
  have down := mul_le_mul_of_nonneg_left within.2 nonneg
  rw [mul_left_comm] at up down
  exact ⟨up, down⟩

theorem inv (positive : 0 < x) (positive' : 0 < y) (within : Within roundings x y) :
    Within roundings x⁻¹ y⁻¹ := by
  constructor
  · rw [← div_eq_mul_inv, div_le_iff₀ positive', inv_mul_eq_div, le_div_iff₀ positive]
    exact within.2
  · rw [← div_eq_mul_inv, div_le_iff₀ positive, inv_mul_eq_div, le_div_iff₀ positive']
    exact within.1

theorem div (nonneg : 0 ≤ y) (divisor : 0 < z) (divisor' : 0 < w) (above : Within roundings x y)
    (below : Within more z w) : Within (roundings + more) (x / z) (y / w) := by
  have first := above.scale (inv_nonneg.mpr (le_of_lt divisor))
  have second := (below.inv divisor divisor').scale nonneg
  rw [mul_comm _ x, mul_comm _ y] at first
  rw [div_eq_mul_inv, div_eq_mul_inv]
  exact first.trans second

/-- What a few roundings may cost. -/
theorem abs_sub_le (nonneg : 0 ≤ y) (few : roundings ≤ 7) (within : Within roundings x y) :
    |x - y| ≤ y / 2 ^ 50 := by
  have least : (1 - roundoff) ^ 7 ≤ (1 - roundoff) ^ roundings := by
    refine pow_le_pow_of_le_one (sub_nonneg.mpr (le_of_lt roundoff_lt_one)) ?_ few
    rw [roundoff]
    norm_num
  have nonneg' : 0 ≤ x := (mul_nonneg (keep_nonneg roundings) nonneg).trans within.1
  have lower := (mul_le_mul_of_nonneg_right least nonneg).trans within.1
  have upper := (mul_le_mul_of_nonneg_right least nonneg').trans within.2
  rw [roundoff] at lower upper
  rw [abs_le]
  constructor
  · linarith
  · linarith

end Within

/-- Rounding is within one roundoff, unless the quotient is very small. -/
theorem nearestRank_within {num den : Nat} (positive : 0 < den) (large : 2 ^ 52 * den ≤ num) :
    Within 1 (units (nearestRank num den)) (num / den) := by
  obtain ⟨upper, lower⟩ := nearestRank_error num positive
  have step := step_le positive large
  have above : 2 ^ 53 * (units (nearestRank num den) * den) ≤ 2 ^ 53 * num + num := by omega
  have below : 2 ^ 53 * num ≤ 2 ^ 53 * (units (nearestRank num den) * den) + num := by omega
  have above' : (2 : ℚ) ^ 53 * (units (nearestRank num den) * den) ≤ 2 ^ 53 * num + num := by
    exact_mod_cast above
  have below' : (2 : ℚ) ^ 53 * num ≤ 2 ^ 53 * (units (nearestRank num den) * den) + num := by
    exact_mod_cast below
  have positive' : (0 : ℚ) < den := Nat.cast_pos.mpr positive
  have nonneg : (0 : ℚ) ≤ num := Nat.cast_nonneg num
  constructor
  · rw [pow_one, mul_div_assoc', div_le_iff₀ positive', roundoff]
    linarith
  · rw [pow_one, le_div_iff₀ positive', roundoff]
    linarith

/-- What rounding gives for a quotient between two doubles, the lower of which is not tiny. -/
theorem ofUnits_between {num den low high : Nat} (negative : Bool) (positive : 0 < den)
    (lower : units low * den ≤ num) (upper : num ≤ units high * den)
    (normal : 2 ^ 52 ≤ units low) (inside : high < topRank) :
    ∃ rank : Fin topRank, ofUnits negative num den = .finite negative rank ∧
      low ≤ rank ∧ rank ≤ high ∧ Within 1 (units rank) (num / den) := by
  have atMost := nearestRank_le positive upper
  have large : 2 ^ 52 * den ≤ num := (Nat.mul_le_mul_right den normal).trans lower
  have below : nearestRank num den < topRank := Nat.lt_of_le_of_lt atMost inside
  refine ⟨⟨nearestRank num den, below⟩, ?_, le_nearestRank positive lower, atMost,
    nearestRank_within positive large⟩
  rw [ofUnits, dif_pos below]

/-! Powers of two -/

/-- The rank of a power of two. -/
def powerRank (exponent : Nat) : Nat :=
  (exponent - 52) * binade + binade

theorem units_powerRank {exponent : Nat} (normal : 52 ≤ exponent) :
    units (powerRank exponent) = 2 ^ exponent := by
  have doubled : binade ≤ 2 * binade := by omega
  rw [powerRank, units_place doubled (Or.inr (Nat.le_refl _)), binade_eq, ← Nat.pow_add,
    Nat.add_sub_cancel' normal]

theorem one_eq : one = 2 ^ unitPlaces := by
  unfold one
  generalize unitPlaces = places
  exact Nat.pow_eq

theorem one_pos : 0 < one := by
  rw [one_eq]
  exact Nat.two_pow_pos unitPlaces

theorem units_powerRank_one : units (powerRank unitPlaces) = one := by
  rw [units_powerRank (by decide), one_eq]

theorem one_le_units {rank : Nat} (le : powerRank unitPlaces ≤ rank) : one ≤ units rank := by
  have least := units_mono le
  rw [units_powerRank_one] at least
  exact least

theorem ne_zero_of_powerRank_le {rank : Nat} (le : powerRank unitPlaces ≤ rank) : rank ≠ 0 := by
  intro zero
  rw [zero] at le
  exact absurd le (by decide)

theorem units_powerRank_above (exponent : Nat) :
    units (powerRank (unitPlaces + exponent)) = 2 ^ exponent * one := by
  have normal : 52 ≤ unitPlaces + exponent := Nat.le_add_right_of_le (by decide)
  rw [units_powerRank normal, Nat.pow_add, Nat.mul_comm, one_eq]

theorem one_split {exponent : Nat} (le : exponent ≤ unitPlaces) :
    2 ^ exponent * 2 ^ (unitPlaces - exponent) = one := by
  rw [one_eq, ← Nat.pow_add, Nat.add_sub_cancel' le]

theorem units_powerRank_below {exponent : Nat} (le : exponent + 52 ≤ unitPlaces) :
    2 ^ exponent * units (powerRank (unitPlaces - exponent)) = one := by
  have normal : 52 ≤ unitPlaces - exponent := Nat.le_sub_of_add_le' le
  rw [units_powerRank normal, one_split (Nat.le_of_add_right_le le)]

/-- The powers of two down to `2 ^ (-1022)` are held with all their places. -/
theorem powerRank_normal {exponent : Nat} (normal : 52 ≤ exponent) :
    2 ^ 52 ≤ units (powerRank exponent) := by
  rw [units_powerRank normal]
  exact Nat.pow_le_pow_right (by decide) normal

/-- Numbers of 64 bits are held but for one rounding. -/
theorem ofNat_spec {n : Nat} (positive : 0 < n) (small : n < 2 ^ 64) :
    ∃ rank : Fin topRank, ofNat n = .finite false rank ∧ powerRank unitPlaces ≤ rank ∧
      rank ≤ powerRank (unitPlaces + 64) ∧ rank.val = nearestRank (n * one) 1 ∧
      Within 1 (units rank) (n * one) := by
  have lower : units (powerRank unitPlaces) * 1 ≤ n * one := by
    rw [units_powerRank_one, Nat.mul_one]
    exact Nat.le_mul_of_pos_left one positive
  have upper : n * one ≤ units (powerRank (unitPlaces + 64)) * 1 := by
    rw [units_powerRank_above, Nat.mul_one]
    exact Nat.mul_le_mul_right one (Nat.le_of_lt small)
  obtain ⟨rank, rounded, low, high, within⟩ :=
    ofUnits_between false Nat.one_pos lower upper (powerRank_normal (by decide)) (by decide)
  rw [Nat.cast_mul, Nat.cast_one, div_one] at within
  refine ⟨rank, rounded, low, high, ?_, within⟩
  rw [ofUnits] at rounded
  split at rounded
  · cases rounded
    rfl
  · cases rounded

/-! A hundred -/

/-- The rank of a hundred. -/
def hundredRank : Fin topRank :=
  ⟨(unitPlaces - 46) * binade + 100 * 2 ^ 46, by decide⟩

theorem units_hundredRank : units hundredRank = 100 * one := by
  have upper : 100 * 2 ^ 46 ≤ 2 * binade := by decide
  have full : binade ≤ 100 * 2 ^ 46 := by decide
  have inside : 46 ≤ unitPlaces := by decide
  have place : units ((unitPlaces - 46) * binade + 100 * 2 ^ 46) =
      100 * 2 ^ 46 * 2 ^ (unitPlaces - 46) := units_place upper (Or.inr full)
  rw [Nat.mul_assoc, one_split inside] at place
  exact place

/-- A hundred is a double. -/
theorem ofNat_hundred : ofNat 100 = .finite false hundredRank := by
  rw [ofNat, ← units_hundredRank, ← Nat.mul_one (units hundredRank)]
  exact ofUnits_units false hundredRank Nat.one_pos

/-! Shares -/

theorem units_zero : units 0 = 0 := by
  rw [units, if_pos (by decide)]

theorem toRat?_zero : (zero false).toRat? = some 0 := by
  rw [zero, toRat?, units_zero, Nat.cast_zero, zero_div, mul_zero]

theorem ofUnits_zero (negative : Bool) {den : Nat} (positive : 0 < den) :
    ofUnits negative 0 den = zero negative := by
  have exact := ofUnits_units negative ⟨0, by decide⟩ positive
  rw [units_zero, Nat.zero_mul] at exact
  exact exact

/-- Of numbers that 64 bits can tell, no share is smaller than `2 ^ (-64)`. -/
theorem least_share {a b : Nat} (least : one ≤ units a) (most : units b ≤ 2 ^ 64 * one) :
    units (powerRank (unitPlaces - 64)) * units b ≤ units a * one :=
  calc units (powerRank (unitPlaces - 64)) * units b
      ≤ units (powerRank (unitPlaces - 64)) * (2 ^ 64 * one) := Nat.mul_le_mul_left _ most
    _ = one * one := by
        rw [Nat.mul_left_comm, ← Nat.mul_assoc, units_powerRank_below (by decide)]
    _ ≤ units a * one := Nat.mul_le_mul_right one least

/-- A share lies between the smallest one that 64 bits can tell and one. -/
theorem share_spec {part whole : Nat} (some : 0 < part) (le : part ≤ whole)
    (small : whole < 2 ^ 64) :
    ∃ rank : Fin topRank, div (ofNat part) (ofNat whole) = .finite false rank ∧
      2 ^ 52 ≤ units rank ∧ units rank ≤ one ∧ Within 3 (units rank) (part / whole * one) := by
  have positive : 0 < whole := Nat.lt_of_lt_of_le some le
  obtain ⟨a, numerator, lowA, -, rankA, withinA⟩ :=
    ofNat_spec some (Nat.lt_of_le_of_lt le small)
  obtain ⟨b, denominator, lowB, highB, rankB, withinB⟩ := ofNat_spec positive small
  have order : units a ≤ units b := by
    rw [rankA, rankB]
    exact units_mono (nearestRank_mono 1 (Nat.mul_le_mul_right one le))
  have mostB := units_mono highB
  rw [units_powerRank_above] at mostB
  have unitsB : 0 < units b := Nat.lt_of_lt_of_le one_pos (one_le_units lowB)
  have upper : units a * one ≤ units (powerRank unitPlaces) * units b := by
    rw [units_powerRank_one, Nat.mul_comm]
    exact Nat.mul_le_mul_left one order
  have normal : 2 ^ 52 ≤ units (powerRank (unitPlaces - 64)) := powerRank_normal (by decide)
  obtain ⟨rank, rounded, low, high, within⟩ :=
    ofUnits_between false unitsB (least_share (one_le_units lowA) mostB) upper normal (by decide)
  have most := units_mono high
  rw [units_powerRank_one] at most
  refine ⟨rank, ?_, normal.trans (units_mono low), most, ?_⟩
  · rw [numerator, denominator, div, if_neg (ne_zero_of_powerRank_le lowB)]
    exact rounded
  · have ones : (0 : ℚ) < one := Nat.cast_pos.mpr one_pos
    have unitsB' : (0 : ℚ) < units b := Nat.cast_pos.mpr unitsB
    have wholes : (0 : ℚ) < whole := Nat.cast_pos.mpr positive
    have parts : (0 : ℚ) ≤ part * one := mul_nonneg (Nat.cast_nonneg part) (le_of_lt ones)
    have ratio := (withinA.div parts unitsB' (mul_pos wholes ones) withinB).scale (le_of_lt ones)
    rw [Nat.cast_mul, mul_comm (units a : ℚ), mul_div_assoc] at within
    rw [mul_div_mul_right _ _ (ne_of_gt ones), mul_comm _ (part / whole : ℚ)] at ratio
    exact within.trans ratio

/-- A hundred times a number up to one. -/
theorem mul_hundred_spec {share : Fin topRank} (normal : 2 ^ 52 ≤ units share)
    (most : units share ≤ one) :
    ∃ rank : Fin topRank, mul (.finite false share) (ofNat 100) = .finite false rank ∧
      units rank ≤ 100 * one ∧ Within 1 (units rank) (100 * units share) := by
  have lower : units share * one ≤ units share * (100 * one) :=
    Nat.mul_le_mul_left _ (Nat.le_mul_of_pos_left one (by decide))
  have upper : units share * (100 * one) ≤ units hundredRank * one := by
    rw [units_hundredRank, Nat.mul_comm (100 * one)]
    exact Nat.mul_le_mul_right (100 * one) most
  obtain ⟨rank, rounded, -, high, within⟩ :=
    ofUnits_between false one_pos lower upper normal hundredRank.isLt
  refine ⟨rank, ?_, ?_, ?_⟩
  · rw [ofNat_hundred, mul, units_hundredRank, bne_self_eq_false, rounded]
  · rw [← units_hundredRank]
    exact units_mono high
  · have ones : (one : ℚ) ≠ 0 := Nat.cast_ne_zero.mpr (Nat.ne_of_gt one_pos)
    rw [Nat.cast_mul, Nat.cast_mul, Nat.cast_ofNat, mul_div_assoc, mul_div_cancel_right₀ _ ones,
      mul_comm _ (100 : ℚ)] at within
    exact within

end CoreWatch.Double
