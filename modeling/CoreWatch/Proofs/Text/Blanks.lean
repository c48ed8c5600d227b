import CoreWatch.Text.Blank
import Mathlib.Data.List.TakeWhile

set_option autoImplicit false

/-! Texts without blanks at their ends, their words and their lines. -/

namespace CoreWatch.Text

/-- Characters that are printed in ASCII are no blanks, the space apart. -/
theorem isBlank_printed {c : Char} (above : 0x20 < c.toNat) (below : c.toNat < 0x7F) :
    isBlank c = false := by
  unfold isBlank
  simp only [Bool.or_eq_false_iff, Bool.and_eq_false_iff, decide_eq_false_iff_not,
    beq_eq_false_iff_ne]
  omega

theorem isBlank_digit {c : Char} (digit : c.isDigit = true) : isBlank c = false := by
  obtain ⟨zero, nine⟩ := Char.isDigit_iff_toNat.mp digit
  have first : '0'.toNat = 48 := rfl
  have last : '9'.toNat = 57 := rfl
  exact isBlank_printed (by omega) (by omega)

theorem visible_of_all {text : List Char} (all : text.all (!isBlank ·) = true) :
    ∀ c ∈ text, isBlank c = false := by
  intro c listed
  have visible := List.all_eq_true.mp all c listed
  rw [Bool.not_eq_true'] at visible
  exact visible

/-- Neither the first nor the last character is a blank. -/
structure Trimmed (text : List Char) : Prop where
  head : ∀ c ∈ text.head?, isBlank c = false
  last : ∀ c ∈ text.getLast?, isBlank c = false

theorem trimLeft_cons {c : Char} (visible : isBlank c = false) (rest : List Char) :
    trimLeft (c :: rest) = c :: rest := by
  rw [trimLeft, List.dropWhile_cons_of_neg (Bool.eq_false_iff.mp visible)]

theorem trimLeft_of_head {text : List Char} (head : ∀ c ∈ text.head?, isBlank c = false) :
    trimLeft text = text := by
  cases text with
  | nil => rfl
  | cons c rest => exact trimLeft_cons (head c rfl) rest

theorem trimRight_of_last {text : List Char} (last : ∀ c ∈ text.getLast?, isBlank c = false) :
    trimRight text = text := by
  rw [← List.head?_reverse] at last
  have kept : text.reverse.dropWhile isBlank = text.reverse := trimLeft_of_head last
  rw [trimRight, kept, List.reverse_reverse]

theorem trimRight_append (front back : List Char) :
    trimRight (front ++ back) =
      if trimRight back = [] then trimRight front else front ++ trimRight back := by
  simp only [trimRight, List.reverse_append, List.dropWhile_append, List.isEmpty_iff,
    List.reverse_eq_nil_iff]
  split
  · rfl
  · rw [List.reverse_append, List.reverse_reverse]

/-- Blanks are only taken from what follows a character that is none. -/
theorem trimRight_append_of_last {front : List Char}
    (last : ∀ c ∈ front.getLast?, isBlank c = false) (back : List Char) :
    trimRight (front ++ back) = front ++ trimRight back := by
  rw [trimRight_append]
  split
  · rename_i none
    rw [none, List.append_nil, trimRight_of_last last]
  · rfl

theorem Trimmed.trim {text : List Char} (trimmed : Trimmed text) : trim text = text := by
  rw [Text.trim, trimLeft_of_head trimmed.head, trimRight_of_last trimmed.last]

theorem trimLeft_gap {gap : List Char} (blank : ∀ c ∈ gap, isBlank c = true) (text : List Char) :
    trimLeft (gap ++ text) = trimLeft text :=
  List.dropWhile_append_of_pos blank

/-- A text is blanks and what is left when they are taken away. -/
theorem exists_gap (text : List Char) :
    ∃ gap, (∀ c ∈ gap, isBlank c = true) ∧ text = gap ++ trimLeft text :=
  ⟨text.takeWhile isBlank, fun _ listed => List.mem_takeWhile_imp listed,
    List.takeWhile_append_dropWhile.symm⟩

theorem blank_of_trimLeft {text : List Char} (none : trimLeft text = []) :
    ∀ c ∈ text, isBlank c = true :=
  List.dropWhile_eq_nil_iff.mp none

theorem head_trimLeft (text : List Char) : ∀ c ∈ (trimLeft text).head?, isBlank c = false := by
  intro c first
  have stop := List.head?_dropWhile_not isBlank text
  rw [show text.dropWhile isBlank = trimLeft text from rfl, Option.mem_def.mp first] at stop
  exact stop

theorem trimRight_prefix (text : List Char) : trimRight text <+: text := by
  have suffix := List.dropWhile_suffix isBlank (l := text.reverse)
  rw [← List.reverse_prefix, List.reverse_reverse] at suffix
  exact suffix

theorem trimmed_trim (text : List Char) : Trimmed (trim text) := by
  refine ⟨?_, ?_⟩
  · intro c first
    obtain ⟨after, same⟩ := trimRight_prefix (trimLeft text)
    apply head_trimLeft text c
    rw [← same, List.head?_append, ← trim, Option.mem_def.mp first]
    rfl
  · intro c last
    rw [trim, trimRight, List.getLast?_reverse] at last
    exact head_trimLeft _ c last

/-! Words -/

/-- Characters of one kind are taken up to the first of another. -/
theorem takeWhile_append_stop {kind : Char → Bool} {front rest : List Char}
    (keep : ∀ c ∈ front, kind c = true) (stop : ∀ c ∈ rest.head?, kind c = false) :
    (front ++ rest).takeWhile kind = front ∧ (front ++ rest).dropWhile kind = rest := by
  rw [List.takeWhile_append_of_pos keep, List.dropWhile_append_of_pos keep]
  cases rest with
  | nil => exact ⟨List.append_nil front, rfl⟩
  | cons c tail =>
    have ends : ¬ kind c = true := Bool.eq_false_iff.mp (stop c rfl)
    rw [List.takeWhile_cons_of_neg ends, List.dropWhile_cons_of_neg ends, List.append_nil]
    exact ⟨rfl, rfl⟩

/-- A word ends at the first blank. -/
theorem nextWord_word {word rest : List Char} (visible : ∀ c ∈ word, isBlank c = false)
    (some : word ≠ []) (stop : ∀ c ∈ rest.head?, isBlank c = true) :
    nextWord (word ++ rest) = (word, rest) := by
  have keep : ∀ c ∈ word, (!isBlank c) = true := by
    intro c listed
    rw [visible c listed]
    rfl
  have ends : ∀ c ∈ rest.head?, (!isBlank c) = false := by
    intro c first
    rw [stop c first]
    rfl
  have head : ∀ c ∈ (word ++ rest).head?, isBlank c = false := by
    obtain ⟨first, others, rfl⟩ := List.exists_cons_of_ne_nil some
    rintro c ⟨⟩
    exact visible first List.mem_cons_self
  obtain ⟨taken, left⟩ := takeWhile_append_stop keep ends
  rw [nextWord, trimLeft_of_head head, taken, left]

/-- The first word stands behind blanks and in front of one, unless it is the last. -/
theorem nextWord_eq_iff {text word rest : List Char} (some : word ≠ []) :
    nextWord text = (word, rest) ↔
      ∃ gap, (∀ c ∈ gap, isBlank c = true) ∧ text = gap ++ (word ++ rest) ∧
        (∀ c ∈ word, isBlank c = false) ∧ ∀ c ∈ rest.head?, isBlank c = true := by
  constructor
  · intro found
    obtain ⟨rfl, rfl⟩ := Prod.mk.inj found
    refine ⟨text.takeWhile isBlank, fun c => List.mem_takeWhile_imp, ?_, ?_, ?_⟩
    · rw [List.takeWhile_append_dropWhile]
      exact List.takeWhile_append_dropWhile.symm
    · intro c listed
      simpa using List.mem_takeWhile_imp listed
    · intro c first
      have stop := List.head?_dropWhile_not (!isBlank ·) (trimLeft text)
      rw [Option.mem_def.mp first] at stop
      simpa using stop
  · rintro ⟨gap, blank, rfl, visible, stop⟩
    have start : trimLeft (gap ++ (word ++ rest)) = trimLeft (word ++ rest) :=
      List.dropWhile_append_of_pos blank
    rw [nextWord, start]
    exact nextWord_word visible some stop

/-! Lines -/

theorem splitOn_line {line : List Char} (whole : '\n' ∉ line) (rest : List Char) :
    splitOn '\n' (line ++ '\n' :: rest) = line :: splitOn '\n' rest := by
  rw [splitOn_append, splitOn_whole whole, List.singleton_append]

/-- Lines that each end are what their text is split into, with nothing after the last. -/
theorem splitOn_lines {lines : List (List Char)} (whole : ∀ line ∈ lines, '\n' ∉ line) :
    splitOn '\n' (lines.flatMap (· ++ ['\n'])) = lines ++ [[]] := by
  induction lines with
  | nil => rfl
  | cons line lines ih =>
    obtain ⟨first, others⟩ := List.forall_mem_cons.mp whole
    rw [List.flatMap_cons, List.append_assoc, List.singleton_append, splitOn_line first, ih others,
      List.cons_append]

end CoreWatch.Text
