import CoreWatch.Proofs.Exposition.ClosingBrace
import CoreWatch.Proofs.Exposition.Comments

set_option autoImplicit false

/-!
The form of sample lines. A line is read exactly if it can be taken apart as a name, a label set in
braces or none, and a number; there is one way to do so, and what follows the number does not count.
-/

namespace CoreWatch.Exposition

open Text

/-- The pieces of a sample line; a line without braces has no text between them. -/
structure SampleParts where
  name : List Char
  body : Option (List Char)
  gap : List Char
  word : List Char
  ignored : List Char

namespace SampleParts

/-- What stands behind the name, with the braces. -/
def afterName (parts : SampleParts) : List Char :=
  match parts.body with
  | none => parts.gap ++ (parts.word ++ parts.ignored)
  | some body => '\x7b' :: (body ++ '\x7d' :: (parts.gap ++ (parts.word ++ parts.ignored)))

/-- The line that the pieces make up. -/
def text (parts : SampleParts) : List Char :=
  parts.name ++ parts.afterName

/-- The pieces are those of a sample, and this is what they say. -/
structure Means (parts : SampleParts) (reading : Reading) : Prop where
  valid : isMetricName parts.name = true
  /-- Without braces the name ends at a blank. -/
  apart : parts.body = none → parts.gap ≠ []
  blank : ∀ c ∈ parts.gap, isBlank c = true
  word : IsWord parts.word
  stop : ∀ c ∈ parts.ignored.head?, isBlank c = true
  name : reading.name = String.ofList parts.name
  labels : (parts.body.elim (.ok ∅) LabelSet.read) = .ok reading.labels
  value : Double.read? parts.word = some reading.value

end SampleParts

/-! Values -/

theorem readSampleValue_word {gap word ignored : List Char} {value : Double}
    (blank : ∀ c ∈ gap, isBlank c = true) (isWord : IsWord word)
    (stop : ∀ c ∈ ignored.head?, isBlank c = true) (read : Double.read? word = some value) :
    readSampleValue (gap ++ (word ++ ignored)) = .ok value := by
  have found := (nextWord_eq_iff isWord.some).mpr ⟨gap, blank, rfl, isWord.visible, stop⟩
  have full : word.isEmpty = false := List.isEmpty_eq_false_iff.mpr isWord.some
  unfold readSampleValue
  simp only [found, full, Bool.false_eq_true, ↓reduceIte, read]

theorem readSampleValue_eq_ok {text : List Char} {value : Double}
    (read : readSampleValue text = .ok value) :
    ∃ gap word ignored, (∀ c ∈ gap, isBlank c = true) ∧ text = gap ++ (word ++ ignored) ∧
      IsWord word ∧ (∀ c ∈ ignored.head?, isBlank c = true) ∧ Double.read? word = some value := by
  unfold readSampleValue at read
  cases found : nextWord text with
  | mk word ignored =>
    simp only [found] at read
    split at read
    · cases read
    · rename_i full
      have some : word ≠ [] := mt List.isEmpty_iff.mpr full
      split at read
      · rename_i number
        cases read
        obtain ⟨gap, blank, split, visible, stop⟩ := (nextWord_eq_iff some).mp found
        exact ⟨gap, word, ignored, blank, split, ⟨some, visible⟩, stop, number⟩
      · cases read

/-- The first word of a text, and the blanks before it, can be told in one way only. -/
theorem firstWord_unique {gap gap' word word' ignored ignored' : List Char}
    (blank : ∀ c ∈ gap, isBlank c = true) (blank' : ∀ c ∈ gap', isBlank c = true)
    (isWord : IsWord word) (isWord' : IsWord word')
    (stop : ∀ c ∈ ignored.head?, isBlank c = true) (stop' : ∀ c ∈ ignored'.head?, isBlank c = true)
    (same : gap ++ (word ++ ignored) = gap' ++ (word' ++ ignored')) :
    gap = gap' ∧ word = word' ∧ ignored = ignored' := by
  have found := (nextWord_eq_iff isWord.some).mpr ⟨gap, blank, rfl, isWord.visible, stop⟩
  have found' := (nextWord_eq_iff isWord'.some).mpr ⟨gap', blank', rfl, isWord'.visible, stop'⟩
  rw [same, found'] at found
  obtain ⟨rfl, rfl⟩ := Prod.mk.inj found
  exact ⟨List.append_cancel_right same, rfl, rfl⟩

/-! Lines -/

theorem SampleParts.Means.stops {parts : SampleParts} {reading : Reading}
    (means : parts.Means reading) :
    ∀ c ∈ parts.afterName.head?, continuesMetricName c = false := by
  unfold SampleParts.afterName
  cases bare : parts.body with
  | none =>
    obtain ⟨c, gap, same⟩ := List.exists_cons_of_ne_nil (means.apart bare)
    have blank := means.blank c (by rw [same]; exact List.mem_cons_self)
    rw [same]
    rintro d ⟨⟩
    rw [continuesMetricName, blank, Bool.not_true, Bool.and_false]
  | some body =>
    rintro c ⟨⟩
    rfl

theorem SampleParts.Means.split {parts : SampleParts} {reading : Reading}
    (means : parts.Means reading) :
    parts.text.takeWhile continuesMetricName = parts.name ∧
      parts.text.dropWhile continuesMetricName = parts.afterName :=
  splitMetricName means.valid means.stops

theorem ofLine_means {parts : SampleParts} {reading : Reading} (means : parts.Means reading) :
    Reading.ofLine parts.text = .ok reading := by
  obtain ⟨taken, left⟩ := means.split
  have value := readSampleValue_word means.blank means.word means.stop means.value
  obtain ⟨name, labels, number⟩ := reading
  obtain rfl : name = String.ofList parts.name := means.name
  have read := means.labels
  unfold Reading.ofLine
  simp only [taken, left, means.valid, SampleParts.afterName]
  cases bare : parts.body with
  | none =>
    obtain ⟨c, gap, same⟩ := List.exists_cons_of_ne_nil (means.apart bare)
    have other : c ≠ '\x7b' := by
      rintro rfl
      cases means.blank '\x7b' (by rw [same]; exact List.mem_cons_self)
    rw [bare] at read
    rw [same] at value
    simp only [same, List.cons_append, Bool.not_true, Bool.false_eq_true, other, ↓reduceIte]
    rw [List.cons_append] at value
    rw [value]
    cases read
    rfl
  | some body =>
    rw [bare] at read
    simp only [Bool.not_true, Bool.false_eq_true, ↓reduceIte, splitAtBrace_read read, value]
    rw [show LabelSet.read body = .ok labels from read]
    rfl

theorem exists_parts {line : List Char} {reading : Reading}
    (read : Reading.ofLine line = .ok reading) :
    ∃ parts : SampleParts, parts.text = line ∧ parts.Means reading := by
  have whole := List.takeWhile_append_dropWhile (p := continuesMetricName) (l := line)
  have stop := List.head?_dropWhile_not continuesMetricName line
  unfold Reading.ofLine at read
  simp only at read
  split at read
  · cases read
  rename_i c rest behind
  rw [behind] at whole stop
  split at read
  · cases read
  rename_i invalid
  have valid : isMetricName (line.takeWhile continuesMetricName) = true := by simpa using invalid
  split at read
  · rename_i brace
    subst brace
    split at read
    · cases read
    rename_i body after closed
    split at read
    · cases read
    rename_i labels found
    obtain ⟨value, number, rfl⟩ := exists_of_map_ok read
    obtain ⟨gap, word, ignored, blank, rfl, isWord, ends, same⟩ := readSampleValue_eq_ok number
    refine ⟨⟨line.takeWhile continuesMetricName, some body, gap, word, ignored⟩, ?_,
      valid, nofun, blank, isWord, ends, rfl, found, same⟩
    rw [SampleParts.text, SampleParts.afterName]
    simp only
    rw [← splitAtBrace_eq_some closed]
    exact whole
  · rename_i other
    obtain ⟨value, number, rfl⟩ := exists_of_map_ok read
    obtain ⟨gap, word, ignored, blank, split, isWord, ends, same⟩ := readSampleValue_eq_ok number
    refine ⟨⟨line.takeWhile continuesMetricName, none, gap, word, ignored⟩, ?_,
      valid, fun _ none => ?_, blank, isWord, ends, rfl, rfl, same⟩
    · rw [SampleParts.text, SampleParts.afterName]
      simp only
      rw [← split]
      exact whole
    · -- The name ends at a blank, so there is one.
      subst none
      obtain ⟨first, tail, rfl⟩ := List.exists_cons_of_ne_nil isWord.some
      obtain ⟨rfl, _⟩ := List.cons.inj split
      have visible := isWord.visible c List.mem_cons_self
      simp only [List.head?_cons, continuesMetricName, visible, Bool.not_false, Bool.and_true,
        bne_eq_false_iff_eq] at stop
      exact other stop

theorem parts_unique {first second : SampleParts} {reading reading' : Reading}
    (means : first.Means reading) (means' : second.Means reading')
    (same : first.text = second.text) : first = second := by
  have names : first.name = second.name := by
    rw [← means.split.1, same, means'.split.1]
  have behind : first.afterName = second.afterName := by
    rw [← means.split.2, same, means'.split.2]
  have labels := means.labels
  have labels' := means'.labels
  obtain ⟨name, body, gap, word, ignored⟩ := first
  obtain ⟨name', body', gap', word', ignored'⟩ := second
  obtain rfl : name = name' := names
  -- A brace is no blank, so either both lines have a label set or none has.
  have apart {gap rest rest' : List Char} (some : gap ≠ []) (blank : ∀ c ∈ gap, isBlank c = true) :
      gap ++ rest ≠ '\x7b' :: rest' := by
    obtain ⟨c, tail, rfl⟩ := List.exists_cons_of_ne_nil some
    intro equal
    obtain ⟨rfl, _⟩ := List.cons.inj equal
    cases blank '\x7b' List.mem_cons_self
  have tails (equal : gap ++ (word ++ ignored) = gap' ++ (word' ++ ignored')) :
      gap = gap' ∧ word = word' ∧ ignored = ignored' :=
    firstWord_unique means.blank means'.blank means.word means'.word means.stop means'.stop equal
  cases body with
  | none =>
    cases body' with
    | none =>
      obtain ⟨rfl, rfl, rfl⟩ := tails behind
      rfl
    | some body' => exact absurd behind (apart (means.apart rfl) means.blank)
  | some body =>
    cases body' with
    | none => exact absurd behind.symm (apart (means'.apart rfl) means'.blank)
    | some body' =>
      have found := splitAtBrace_read labels (gap ++ (word ++ ignored))
      rw [(List.cons.inj behind).2, splitAtBrace_read labels'] at found
      obtain ⟨rfl, rest⟩ := Prod.mk.inj (Option.some.inj found)
      obtain ⟨rfl, rfl, rfl⟩ := tails rest.symm
      rfl

theorem ofLine_eq_ok_iff {line : List Char} {reading : Reading} :
    Reading.ofLine line = .ok reading ↔
      ∃ parts : SampleParts, parts.text = line ∧ parts.Means reading := by
  constructor
  · exact exists_parts
  · rintro ⟨parts, rfl, means⟩
    exact ofLine_means means

/-- The place in bytes of the brace that closes a label set. -/
def closingBrace? (text : List Char) : Option Nat :=
  (splitAtBrace false text).map fun (body, _) => byteLength body

/--
The brace behind a text that is read as a label set is the one that closes it. A line is read
exactly if it has the form of a sample, with pieces that can be told in one way only, and whatever
stands behind the number is ignored.
-/
theorem ofLine_reads_samples :
    (∀ body labels, LabelSet.read body = .ok labels → ∀ rest,
      closingBrace? (body ++ '\x7d' :: rest) = some (byteLength body) ∧
        splitAtBrace false (body ++ '\x7d' :: rest) = some (body, rest)) ∧
    (∀ line reading, Reading.ofLine line = .ok reading ↔
      ∃ parts : SampleParts, parts.text = line ∧ parts.Means reading) ∧
    (∀ first second : SampleParts, ∀ reading reading', first.Means reading →
      second.Means reading' → first.text = second.text → first = second) ∧
    ∀ parts : SampleParts, ∀ reading, parts.Means reading → ∀ other : List Char,
      (∀ c ∈ other.head?, isBlank c = true) →
        Reading.ofLine { parts with ignored := other }.text = .ok reading := by
  refine ⟨fun body labels read rest => ?_, fun _ _ => ofLine_eq_ok_iff,
    fun _ _ _ _ means means' => parts_unique means means', fun parts reading means other stop => ?_⟩
  · have found := splitAtBrace_read read rest
    rw [closingBrace?, found]
    exact ⟨rfl, rfl⟩
  · exact ofLine_means { means with stop }

end CoreWatch.Exposition
