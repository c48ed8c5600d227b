import CoreWatch.Proofs.Double.DecimalText
import CoreWatch.Proofs.Double.Rounding
import CoreWatch.Proofs.Text.Blanks

set_option autoImplicit false

/-! Doubles are read again as what was written. -/

namespace CoreWatch.Double

/-! Reading a sign and digits -/

theorem takeSign_digit {c : Char} {rest : List Char} (digit : c.isDigit = true) :
    Decimal.takeSign (c :: rest) = (false, c :: rest) := by
  unfold Decimal.takeSign
  split
  · rename_i same
    obtain rfl := (List.cons.inj same).1
    cases digit
  · rename_i same
    obtain rfl := (List.cons.inj same).1
    cases digit
  · rfl

theorem toLower_digit {c : Char} (digit : c.isDigit = true) : c.toLower = c := by
  have range := Char.isDigit_iff_toNat.mp digit
  have lower : ¬ (c.val ≥ 'A'.val ∧ c.val ≤ 'Z'.val) := by
    rintro ⟨above, _⟩
    have capital : 65 ≤ c.toNat := UInt32.le_iff_toNat_le.mp above
    have last : '9'.toNat = 57 := rfl
    omega
  unfold Char.toLower
  rw [dif_neg lower]

/-- A word that starts with a digit is neither an infinity nor not-a-number. -/
theorem lower_digit_ne {c other : Char} {rest others : List Char} (digit : c.isDigit = true)
    (letter : other.isDigit = false) : Text.lower (c :: rest) ≠ other :: others := by
  intro same
  have head : c.toLower = other := (List.cons.inj same).1
  rw [toLower_digit digit] at head
  rw [← head, digit] at letter
  cases letter

theorem read?_unsigned {c : Char} {rest : List Char} (digit : c.isDigit = true) :
    read? (c :: rest) = (Decimal.read? (c :: rest)).map (ofDecimal false) := by
  have inf : Text.lower (c :: rest) ≠ "inf".toList := lower_digit_ne digit rfl
  have infinity : Text.lower (c :: rest) ≠ "infinity".toList := lower_digit_ne digit rfl
  have nan : Text.lower (c :: rest) ≠ "nan".toList := lower_digit_ne digit rfl
  unfold read?
  simp only [takeSign_digit digit, inf, infinity, nan, decide_false, Bool.or_self,
    Bool.false_eq_true, ↓reduceIte]

theorem read?_minus {c : Char} {rest : List Char} (digit : c.isDigit = true) :
    read? ('-' :: c :: rest) = (Decimal.read? (c :: rest)).map (ofDecimal true) := by
  have inf : Text.lower (c :: rest) ≠ "inf".toList := lower_digit_ne digit rfl
  have infinity : Text.lower (c :: rest) ≠ "infinity".toList := lower_digit_ne digit rfl
  have nan : Text.lower (c :: rest) ≠ "nan".toList := lower_digit_ne digit rfl
  unfold read?
  simp only [Decimal.takeSign, inf, infinity, nan, decide_false, Bool.or_self,
    Bool.false_eq_true, ↓reduceIte]

theorem ofDecimal_finite {d : Decimal} {rank : Fin topRank} (negative other : Bool)
    (read : ofDecimal negative d = .finite negative rank) :
    ofDecimal other d = .finite other rank := by
  unfold ofDecimal at read ⊢
  by_cases whole : 0 ≤ d.power
  · simp only [whole, ↓reduceIte] at read ⊢
    exact ofUnits_finite negative other read
  · simp only [whole, ↓reduceIte] at read ⊢
    exact ofUnits_finite negative other read

/-! The shortest decimal -/

theorem units_pos {rank : Nat} (nonzero : rank ≠ 0) : 0 < units rank := by
  unfold units
  split
  · omega
  · have leading := binade_pos
    exact Nat.mul_pos (by omega) (Nat.two_pow_pos _)

/-- So many places are not cut off when a number with that many factors of five is read. -/
theorem places_kept {m : Nat} (positive : 0 < m) (places : Nat) :
    min places ((m * Nat.pow 5 places).log2 + 400) = places := by
  have product : 0 < m * 5 ^ places := Nat.mul_pos positive (Nat.pow_pos (by decide))
  have long : places ≤ (m * 5 ^ places).log2 := by
    rw [Nat.le_log2 (Nat.ne_of_gt product)]
    calc 2 ^ places ≤ 5 ^ places := Nat.pow_le_pow_left (by decide) places
      _ ≤ m * 5 ^ places := Nat.le_mul_of_pos_left _ positive
  rw [Nat.pow_eq]
  omega

theorem mul_pow_five_pow_two (m places : Nat) :
    m * Nat.pow 5 places * Nat.pow 2 places = m * Nat.pow 10 places := by
  rw [Nat.mul_assoc, Nat.pow_eq, Nat.pow_eq, Nat.pow_eq, ← Nat.mul_pow]

/-- A double with a place for each bit of the unit is read exactly. -/
theorem ofDecimal_places {rank : Fin topRank} {places : Nat} (nonzero : rank.val ≠ 0)
    (some : 0 < places) (unit : one = Nat.pow 2 places) :
    ofDecimal false ⟨units rank * Nat.pow 5 places, -(places : Int)⟩ = .finite false rank := by
  have negative : ¬ 0 ≤ -(places : Int) := by omega
  have count : (- -(places : Int)).toNat = places := by omega
  have positive : 0 < Nat.pow 10 places := Nat.pow_pos (by decide)
  simp only [ofDecimal, negative, ↓reduceIte, count, places_kept (units_pos nonzero), unit,
    mul_pow_five_pow_two]
  exact ofUnits_units false rank positive

theorem ofDecimal_exactDecimal {rank : Fin topRank} (nonzero : rank.val ≠ 0) :
    ofDecimal false (exactDecimal rank) = .finite false rank :=
  @ofDecimal_places rank unitPlaces nonzero (by decide) (by rw [one])

theorem searchDigits_readsBack {rank : Fin topRank} {d : Decimal}
    (found : searchDigits rank = some d) : readsBack rank d = true := by
  obtain ⟨count, _, nearest⟩ := List.exists_of_findSome?_eq_some found
  exact List.find?_some nearest

theorem read?_shortest {rank : Fin topRank} (nonzero : rank.val ≠ 0) :
    ∃ d, Decimal.read? (shortest rank).plain = some d ∧ ofDecimal false d = .finite false rank := by
  unfold shortest
  cases search : searchDigits rank with
  | none =>
    have places : (exactDecimal rank).power < 0 := show -(unitPlaces : Int) < 0 by decide
    exact ⟨exactDecimal rank, Decimal.read?_plain places, ofDecimal_exactDecimal nonzero⟩
  | some d =>
    have read := searchDigits_readsBack search
    rw [readsBack, decide_eq_true_eq] at read
    obtain ⟨c, rest, same, digit⟩ := d.plain_head
    rw [same, read?_unsigned digit, Option.map_eq_some_iff] at read
    rw [Option.getD_some, same]
    exact read

/-- What is written for the magnitude of a finite double. -/
def magnitude (rank : Fin topRank) : List Char :=
  if rank.val = 0 then ['0'] else (shortest rank).plain

theorem magnitude_head (rank : Fin topRank) :
    ∃ c rest, magnitude rank = c :: rest ∧ c.isDigit = true := by
  unfold magnitude
  split
  · exact ⟨'0', [], rfl, rfl⟩
  · exact (shortest rank).plain_head

theorem read?_magnitude (rank : Fin topRank) :
    ∃ d, Decimal.read? (magnitude rank) = some d ∧ ofDecimal false d = .finite false rank := by
  unfold magnitude
  split
  · rename_i none
    have same : rank = ⟨0, by decide⟩ := Fin.ext none
    subst same
    exact ⟨⟨0, 0⟩, rfl, by decide +kernel⟩
  · rename_i some
    exact read?_shortest some

theorem toChars_finite (negative : Bool) (rank : Fin topRank) :
    toChars (.finite negative rank) =
      if negative then '-' :: magnitude rank else magnitude rank :=
  rfl

theorem read?_finite (negative : Bool) (rank : Fin topRank) :
    read? (toChars (.finite negative rank)) = some (.finite negative rank) := by
  obtain ⟨d, read, rounded⟩ := read?_magnitude rank
  obtain ⟨c, rest, same, digit⟩ := magnitude_head rank
  rw [same] at read
  rw [toChars_finite, same]
  cases negative with
  | false =>
    simp only [Bool.false_eq_true, ↓reduceIte]
    rw [read?_unsigned digit, read, Option.map_some, rounded]
  | true =>
    simp only [↓reduceIte]
    rw [read?_minus digit, read, Option.map_some, ofDecimal_finite false true rounded]

/-- Every double that is written is read again as itself. -/
theorem read?_toChars (x : Double) : read? x.toChars = some x := by
  cases x with
  | nan => decide
  | infinite negative => cases negative <;> decide
  | finite negative rank => exact read?_finite negative rank

theorem toChars_ne_nil (x : Double) : x.toChars ≠ [] := by
  cases x with
  | nan => decide
  | infinite negative => cases negative <;> decide
  | finite negative rank =>
    obtain ⟨c, rest, same, _⟩ := magnitude_head rank
    rw [toChars_finite, same]
    cases negative <;> exact List.cons_ne_nil _ _

theorem magnitude_visible (rank : Fin topRank) : ∀ c ∈ magnitude rank, Text.isBlank c = false := by
  unfold magnitude
  split
  · intro c listed
    rw [List.mem_singleton.mp listed]
    rfl
  · intro c listed
    rcases (shortest rank).plain_chars c listed with digit | rfl
    · exact Text.isBlank_digit digit
    · rfl

/-- A double is written as one word. -/
theorem toChars_visible (x : Double) : ∀ c ∈ x.toChars, Text.isBlank c = false := by
  cases x with
  | nan => exact Text.visible_of_all (by decide)
  | infinite negative => cases negative <;> exact Text.visible_of_all (by decide)
  | finite negative rank =>
    rw [toChars_finite]
    cases negative with
    | false =>
      rw [if_neg Bool.false_ne_true]
      exact magnitude_visible rank
    | true =>
      rw [if_pos rfl, List.forall_mem_cons]
      exact ⟨rfl, magnitude_visible rank⟩

end CoreWatch.Double
