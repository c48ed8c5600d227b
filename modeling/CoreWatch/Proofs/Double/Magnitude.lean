import CoreWatch.Proofs.Double.Roundoff

set_option autoImplicit false

/-!
Products and quotients of several numbers: as long as the magnitudes stay within the range of the
normal doubles, each operation costs one more rounding.
-/

namespace CoreWatch.Double

namespace Within

variable {roundings more : Nat} {x y z w : ℚ}

theorem mul (nonneg : 0 ≤ z) (nonneg' : 0 ≤ y) (first : Within roundings x y)
    (second : Within more z w) : Within (roundings + more) (x * z) (y * w) := by
  have left := first.scale nonneg
  rw [mul_comm z, mul_comm z] at left
  exact left.trans (second.scale nonneg')

theorem pos (positive : 0 < x) (within : Within roundings x y) : 0 < y := by
  have keep : (0 : ℚ) < (1 - roundoff) ^ roundings :=
    pow_pos (sub_pos.mpr roundoff_lt_one) roundings
  exact lt_of_lt_of_le (mul_pos keep positive) within.2

end Within

/-! Powers of two -/

/-- The farthest from one that a magnitude may be here, in binary places. -/
def maxPlaces : Nat := 1000

section

variable {a b : Nat}

theorem powerRank_mono (le : a ≤ b) : powerRank a ≤ powerRank b := by
  rw [powerRank, powerRank]
  exact Nat.add_le_add_right (Nat.mul_le_mul_right binade (Nat.sub_le_sub_right le 52)) binade

theorem powerRank_lt_topRank (range : a ≤ maxPlaces) : powerRank (unitPlaces + a) < topRank := by
  refine Nat.lt_of_le_of_lt (powerRank_mono (Nat.add_le_add_left range unitPlaces)) ?_
  decide

theorem normal_below (range : a ≤ maxPlaces) : 52 ≤ unitPlaces - a := by
  rw [maxPlaces] at range
  rw [unitPlaces]
  omega

theorem units_low (range : a ≤ maxPlaces) :
    units (powerRank (unitPlaces - a)) = 2 ^ (unitPlaces - a) :=
  units_powerRank (normal_below range)

theorem units_high (a : Nat) : units (powerRank (unitPlaces + a)) = 2 ^ (unitPlaces + a) :=
  units_powerRank (Nat.le_add_right_of_le (by decide))

end

/-! Magnitudes -/

/--
A positive double that stands for a number but for some roundings, and that is no farther from one
than so many binary places.
-/
def Near (roundings places : Nat) (x : Double) (y : ℚ) : Prop :=
  ∃ rank : Fin topRank, x = .finite false rank ∧ powerRank (unitPlaces - places) ≤ rank ∧
    rank ≤ powerRank (unitPlaces + places) ∧ Within roundings (units rank) (y * one)

theorem ofNat_near {n : Nat} (positive : 0 < n) (small : n < 2 ^ 64) : Near 1 64 (ofNat n) n := by
  obtain ⟨rank, rounded, low, high, -, within⟩ := ofNat_spec positive small
  exact ⟨rank, rounded, (powerRank_mono (Nat.sub_le _ _)).trans low, high, within⟩

section

variable {roundings more a b : Nat} {x z : Double} {y w : ℚ}

/-- Such a double in units, with its bounds; what it stands for is positive too. -/
theorem Near.bounds (near : Near roundings a x y) (range : a ≤ maxPlaces) :
    ∃ rank : Fin topRank, x = .finite false rank ∧ 2 ^ (unitPlaces - a) ≤ units rank ∧
      units rank ≤ 2 ^ (unitPlaces + a) ∧ 0 < units rank ∧
      Within roundings (units rank) (y * one) ∧ 0 < y * one := by
  obtain ⟨rank, rfl, low, high, within⟩ := near
  have least := units_mono low
  have most := units_mono high
  rw [units_low range] at least
  rw [units_high] at most
  have positive : 0 < units rank := Nat.lt_of_lt_of_le (Nat.two_pow_pos _) least
  exact ⟨rank, rfl, least, most, positive, within, within.pos (Nat.cast_pos.mpr positive)⟩

/-- What a double that stands for a number is worth. -/
theorem Near.toRat (near : Near roundings a x y) :
    ∃ value : ℚ, x.toRat? = some value ∧ Within roundings value y := by
  obtain ⟨rank, rfl, -, -, within⟩ := near
  have ones : (0 : ℚ) < one := Nat.cast_pos.mpr one_pos
  refine ⟨units rank / one, ?_, ?_⟩
  · rw [toRat?]
    simp only [Bool.false_eq_true, ↓reduceIte, one_mul]
  · have scaled := within.scale (inv_nonneg.mpr (le_of_lt ones))
    rw [inv_mul_eq_div, inv_mul_eq_div, mul_div_cancel_right₀ _ (ne_of_gt ones)] at scaled
    exact scaled

/-- Rounding a quotient of units that lies within the range. -/
theorem ofUnits_near {num den : Nat} (positive : 0 < den) (range : a ≤ maxPlaces)
    (lower : 2 ^ (unitPlaces - a) * den ≤ num) (upper : num ≤ 2 ^ (unitPlaces + a) * den)
    (within : Within roundings ((num : ℚ) / den) (y * one)) :
    Near (1 + roundings) a (ofUnits false num den) y := by
  have normal := powerRank_normal (normal_below range)
  rw [← units_low range] at lower
  rw [← units_high] at upper
  obtain ⟨rank, rounded, low, high, once⟩ :=
    ofUnits_between false positive lower upper normal (powerRank_lt_topRank range)
  exact ⟨rank, rounded, low, high, once.trans within⟩

theorem Near.mul (first : Near roundings a x y) (second : Near more b z w)
    (range : a + b ≤ maxPlaces) : Near (1 + (roundings + more)) (a + b) (x.mul z) (y * w) := by
  obtain ⟨j, rfl, leastJ, mostJ, -, withinJ, above⟩ :=
    first.bounds (Nat.le_of_add_right_le range)
  obtain ⟨k, rfl, leastK, mostK, -, withinK, -⟩ := second.bounds (Nat.le_of_add_left_le range)
  have inside : a + b ≤ unitPlaces := range.trans (by decide)
  have lower : 2 ^ (unitPlaces - (a + b)) * one ≤ units j * units k :=
    calc 2 ^ (unitPlaces - (a + b)) * one
        = 2 ^ (unitPlaces - a) * 2 ^ (unitPlaces - b) := by
          rw [one_eq, ← Nat.pow_add, ← Nat.pow_add]
          congr 1
          omega
      _ ≤ units j * units k := Nat.mul_le_mul leastJ leastK
  have upper : units j * units k ≤ 2 ^ (unitPlaces + (a + b)) * one :=
    calc units j * units k
        ≤ 2 ^ (unitPlaces + a) * 2 ^ (unitPlaces + b) := Nat.mul_le_mul mostJ mostK
      _ = 2 ^ (unitPlaces + (a + b)) * one := by
          rw [one_eq, ← Nat.pow_add, ← Nat.pow_add]
          congr 1
          omega
  rw [Double.mul, bne_self_eq_false]
  refine ofUnits_near one_pos range lower upper ?_
  have ones : (0 : ℚ) < one := Nat.cast_pos.mpr one_pos
  have product := withinJ.mul (Nat.cast_nonneg (units k)) (le_of_lt above) withinK
  have scaled := product.scale (inv_nonneg.mpr (le_of_lt ones))
  rw [inv_mul_eq_div, inv_mul_eq_div, mul_mul_mul_comm, ← mul_assoc,
    mul_div_cancel_right₀ _ (ne_of_gt ones)] at scaled
  rw [Nat.cast_mul]
  exact scaled

theorem Near.div (first : Near roundings a x y) (second : Near more b z w)
    (range : a + b ≤ maxPlaces) : Near (1 + (roundings + more)) (a + b) (x.div z) (y / w) := by
  obtain ⟨j, rfl, leastJ, mostJ, -, withinJ, above⟩ :=
    first.bounds (Nat.le_of_add_right_le range)
  obtain ⟨k, rfl, leastK, mostK, positive, withinK, below⟩ :=
    second.bounds (Nat.le_of_add_left_le range)
  have inside : a + b ≤ unitPlaces := range.trans (by decide)
  have lower : 2 ^ (unitPlaces - (a + b)) * units k ≤ units j * one :=
    calc 2 ^ (unitPlaces - (a + b)) * units k
        ≤ 2 ^ (unitPlaces - (a + b)) * 2 ^ (unitPlaces + b) := Nat.mul_le_mul_left _ mostK
      _ = 2 ^ (unitPlaces - a) * one := by
          rw [one_eq, ← Nat.pow_add, ← Nat.pow_add]
          congr 1
          omega
      _ ≤ units j * one := Nat.mul_le_mul_right one leastJ
  have upper : units j * one ≤ 2 ^ (unitPlaces + (a + b)) * units k :=
    calc units j * one
        ≤ 2 ^ (unitPlaces + a) * one := Nat.mul_le_mul_right one mostJ
      _ = 2 ^ (unitPlaces + (a + b)) * 2 ^ (unitPlaces - b) := by
          rw [one_eq, ← Nat.pow_add, ← Nat.pow_add]
          congr 1
          omega
      _ ≤ 2 ^ (unitPlaces + (a + b)) * units k := Nat.mul_le_mul_left _ leastK
  have nonzero : k.val ≠ 0 := by
    intro zero
    rw [zero, units_zero] at positive
    cases positive
  have quotient : div (.finite false j) (.finite false k) =
      ofUnits false (units j * one) (units k) := by
    rw [div, if_neg nonzero, bne_self_eq_false]
  rw [quotient]
  refine ofUnits_near positive range lower upper ?_
  have ones : (0 : ℚ) < one := Nat.cast_pos.mpr one_pos
  have ratio := (withinJ.div (le_of_lt above) (Nat.cast_pos.mpr positive) below withinK).scale
    (le_of_lt ones)
  rw [mul_comm _ ((units j : ℚ) / _), div_mul_eq_mul_div, mul_comm _ (y * _ / _),
    mul_div_mul_right _ _ (ne_of_gt ones)] at ratio
  rw [Nat.cast_mul]
  exact ratio

end

end CoreWatch.Double
