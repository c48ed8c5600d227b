import CoreWatch.Proofs.Exposition.LabelSets
import CoreWatch.Proofs.Exposition.Names

set_option autoImplicit false

/-!
The grammar of label sets. A text is read exactly if it is one of the grammar, and as the labels
that the grammar tells. The place of a fault lies between two characters of the text.
-/

namespace CoreWatch.Exposition

open Text

/-! Values -/

/-- What stands between the quotes of a label value, and the value that it means. -/
inductive Quotes : List Char → List Char → Prop
  | nil : Quotes [] []
  | plain {c : Char} {raw value : List Char} (quote : c ≠ '"') (backslash : c ≠ '\\')
      (rest : Quotes raw value) : Quotes (c :: raw) (c :: value)
  | newline {raw value : List Char} (rest : Quotes raw value) :
      Quotes ('\\' :: 'n' :: raw) ('\n' :: value)
  | quote {raw value : List Char} (rest : Quotes raw value) :
      Quotes ('\\' :: '"' :: raw) ('"' :: value)
  | backslash {raw value : List Char} (rest : Quotes raw value) :
      Quotes ('\\' :: '\\' :: raw) ('\\' :: value)
  | other {c : Char} {raw value : List Char} (newline : c ≠ 'n') (quote : c ≠ '"')
      (backslash : c ≠ '\\') (rest : Quotes raw value) :
      Quotes ('\\' :: c :: raw) ('\\' :: c :: value)

/-- A backslash and a character mean what the table of escapes says. -/
theorem Quotes.escaped (c : Char) {raw value : List Char} (rest : Quotes raw value) :
    Quotes ('\\' :: c :: raw) (unescapeValue c ++ value) := by
  by_cases newline : c = 'n'
  · subst newline
    exact .newline rest
  by_cases quote : c = '"'
  · subst quote
    exact .quote rest
  by_cases backslash : c = '\\'
  · subst backslash
    exact .backslash rest
  have kept : unescapeValue c = ['\\', c] := by
    simp only [unescapeValue, newline, quote, backslash, decide_false, Bool.or_self,
      Bool.false_eq_true, ↓reduceIte]
  rw [kept]
  exact .other newline quote backslash rest

theorem readValue?_plain {c : Char} (quote : c ≠ '"') (backslash : c ≠ '\\')
    (rest : List Char) :
    readValue? (c :: rest) = (readValue? rest).map fun (value, after) => (c :: value, after) := by
  rw [readValue?, if_neg backslash]
  · exact quote
  · intro _ _ same
    exact absurd same backslash

theorem readValue?_quotes {raw value : List Char} (quotes : Quotes raw value) (rest : List Char) :
    readValue? (raw ++ '"' :: rest) = some (value, rest) := by
  induction quotes with
  | nil => rfl
  | plain quote backslash _ ih =>
    rw [List.cons_append, readValue?_plain quote backslash, ih, Option.map_some]
  | newline _ ih => rw [List.cons_append, List.cons_append, readValue?, ih]; rfl
  | quote _ ih => rw [List.cons_append, List.cons_append, readValue?, ih]; rfl
  | backslash _ ih => rw [List.cons_append, List.cons_append, readValue?, ih]; rfl
  | other newline quote backslash _ ih =>
    rw [List.cons_append, List.cons_append, readValue?, ih]
    simp only [unescapeValue, newline, quote, backslash, decide_false, Bool.or_self,
      Bool.false_eq_true, ↓reduceIte, Option.map_some]
    rfl

theorem readValue?_eq_some_iff {text value rest : List Char} :
    readValue? text = some (value, rest) ↔ ∃ raw, Quotes raw value ∧ text = raw ++ '"' :: rest := by
  constructor
  · intro read
    fun_induction readValue? text generalizing value rest with
    | case1 => cases read
    | case2 =>
      cases read
      exact ⟨[], .nil, rfl⟩
    | case3 c tail ih =>
      obtain ⟨⟨inner, left⟩, found, same⟩ := Option.map_eq_some_iff.mp read
      cases same
      obtain ⟨raw, quotes, rfl⟩ := ih found
      exact ⟨'\\' :: c :: raw, quotes.escaped c, rfl⟩
    | case4 => cases read
    | case5 c tail quote _ backslash ih =>
      obtain ⟨⟨inner, left⟩, found, same⟩ := Option.map_eq_some_iff.mp read
      cases same
      obtain ⟨raw, quotes, rfl⟩ := ih found
      exact ⟨c :: raw, .plain quote backslash quotes, rfl⟩
  · rintro ⟨raw, quotes, rfl⟩
    exact readValue?_quotes quotes rest

/-! Labels -/

/-- A label as it may be written: a name, an equals sign and a value in quotes. -/
inductive SpellsLabel : List Char → Label → Prop
  | pair {name gap gap' raw value : List Char} (valid : isLabelName name = true)
      (before : ∀ c ∈ gap, isBlank c = true) (after : ∀ c ∈ gap', isBlank c = true)
      (quotes : Quotes raw value) :
      SpellsLabel (name ++ (gap ++ '=' :: (gap' ++ '"' :: (raw ++ ['"']))))
        ⟨String.ofList name, String.ofList value⟩

theorem stop_gap {gap : List Char} (blank : ∀ c ∈ gap, isBlank c = true) (rest : List Char) :
    ∀ c ∈ (gap ++ '=' :: rest).head?, continuesName c = false := by
  cases gap with
  | nil =>
    rintro c ⟨⟩
    rfl
  | cons first gap =>
    rintro c ⟨⟩
    rw [continuesName, blank first List.mem_cons_self, Bool.not_true, Bool.and_false]

theorem readLabel_spells {text : List Char} {label : Label} (spells : SpellsLabel text label)
    (rest : List Char) : readLabel (text ++ rest) = .ok (label, rest) := by
  cases spells with
  | @pair name gap gap' raw value valid before after quotes =>
    have shape : name ++ (gap ++ '=' :: (gap' ++ '"' :: (raw ++ ['"']))) ++ rest =
        name ++ (gap ++ '=' :: (gap' ++ '"' :: (raw ++ '"' :: rest))) := by
      simp only [List.append_assoc, List.cons_append, List.nil_append]
    obtain ⟨taken, left⟩ :=
      splitLabelName valid (stop_gap before (gap' ++ '"' :: (raw ++ '"' :: rest)))
    rw [shape]
    unfold readLabel
    simp only [taken, left, valid, Bool.not_true, Bool.false_eq_true, ↓reduceIte,
      trimLeft_gap before, trimLeft_gap after, trimLeft_cons (show isBlank '=' = false from rfl),
      trimLeft_cons (show isBlank '"' = false from rfl), readValue?_quotes quotes]

theorem readLabel_eq_ok_iff {text rest : List Char} {label : Label} :
    readLabel text = .ok (label, rest) ↔ ∃ own, SpellsLabel own label ∧ text = own ++ rest := by
  constructor
  · intro read
    unfold readLabel at read
    simp only at read
    split at read
    · cases read
    rename_i valid
    split at read
    · rename_i afterEquals equals
      split at read
      · rename_i body quote
        split at read
        · rename_i value left found
          cases read
          obtain ⟨raw, quotes, rfl⟩ := readValue?_eq_some_iff.mp found
          obtain ⟨gap, before, front⟩ := exists_gap (text.dropWhile continuesName)
          obtain ⟨gap', after, back⟩ := exists_gap afterEquals
          refine ⟨_, .pair (by simpa using valid) before after quotes, ?_⟩
          have whole := List.takeWhile_append_dropWhile (p := continuesName) (l := text)
          rw [front, equals, back, quote] at whole
          refine whole.symm.trans ?_
          simp only [List.append_assoc, List.cons_append, List.nil_append]
        · cases read
      · cases read
    · cases read
  · rintro ⟨own, spells, rfl⟩
    exact readLabel_spells spells rest

/-! Label sets -/

theorem exists_of_map_ok {ε α β : Type} {result : Except ε α} {f : α → β} {b : β}
    (mapped : result.map f = .ok b) : ∃ a, result = .ok a ∧ f a = b := by
  cases result with
  | error fault => cases mapped
  | ok a => exact ⟨a, rfl, Except.ok.inj mapped⟩

/-- Labels with commas between them, and blanks around the commas. -/
inductive SpellsLabels : List Char → List Label → Prop
  | single {text : List Char} {label : Label} (own : SpellsLabel text label) :
      SpellsLabels text [label]
  | cons {text gap gap' more : List Char} {label : Label} {labels : List Label}
      (own : SpellsLabel text label) (before : ∀ c ∈ gap, isBlank c = true)
      (after : ∀ c ∈ gap', isBlank c = true) (others : SpellsLabels more labels) :
      SpellsLabels (text ++ (gap ++ ',' :: (gap' ++ more))) (label :: labels)

/-- What may follow the last label of a set: blanks, with or without a comma between them. -/
inductive EndsSet : List Char → Prop
  | blank {back : List Char} (blank : ∀ c ∈ back, isBlank c = true) : EndsSet back
  | comma {gap back : List Char} (before : ∀ c ∈ gap, isBlank c = true)
      (after : ∀ c ∈ back, isBlank c = true) : EndsSet (gap ++ ',' :: back)

/-- A label set as it may be written, and its labels in the order in which they stand. -/
inductive SpellsSet : List Char → List Label → Prop
  | empty {gap : List Char} (blank : ∀ c ∈ gap, isBlank c = true) : SpellsSet gap []
  | labels {front text back : List Char} {labels : List Label}
      (before : ∀ c ∈ front, isBlank c = true) (spells : SpellsLabels text labels)
      (ends : EndsSet back) : SpellsSet (front ++ (text ++ back)) labels

/-- A label and a comma may stand in front of any label set. -/
theorem SpellsSet.cons {front text gap more : List Char} {label : Label} {labels : List Label}
    (before : ∀ c ∈ front, isBlank c = true) (own : SpellsLabel text label)
    (between : ∀ c ∈ gap, isBlank c = true) (others : SpellsSet more labels) :
    SpellsSet (front ++ (text ++ (gap ++ ',' :: more))) (label :: labels) := by
  cases others with
  | empty blank => exact .labels before (.single own) (.comma between blank)
  | @labels front' text' back _ after spells ends =>
    have whole : SpellsSet (front ++ ((text ++ (gap ++ ',' :: (front' ++ text'))) ++ back)) _ :=
      .labels before (.cons own between after spells) ends
    simpa only [List.append_assoc, List.cons_append] using whole

/-- Labels are read one by one, with a comma between two of them. -/
theorem readLabels_step {text rest : List Char} {label : Label}
    (found : readLabel (trimLeft text) = .ok (label, rest)) :
    readLabels text =
      match trimLeft rest with
      | [] => .ok [label]
      | ',' :: more => (readLabels more).map (label :: ·)
      | other => .error ⟨.missingComma, other⟩ := by
  have full : (trimLeft text).isEmpty = false := by
    cases start : trimLeft text with
    | nil =>
      rw [start] at found
      cases found
    | cons c tail => rfl
  rw [readLabels]
  simp only [full, Bool.false_eq_true, ↓reduceIte]
  split
  · rename_i unread failed
    rw [found] at failed
    cases failed
  · rename_i same
    rw [found] at same
    cases same
    generalize trimLeft rest = after
    split
    · rfl
    · rfl
    · rename_i noEnd noComma
      split
      · exact (noEnd rfl).elim
      · exact (noComma _ rfl).elim
      · rfl

theorem readLabels_blank {gap : List Char} (blank : ∀ c ∈ gap, isBlank c = true) :
    readLabels gap = .ok [] := by
  have none : trimLeft gap = [] := List.dropWhile_eq_nil_iff.mpr blank
  rw [readLabels, none]
  rfl

theorem trimLeft_spells {front text : List Char} {label : Label}
    (before : ∀ c ∈ front, isBlank c = true) (spells : SpellsLabel text label)
    (rest : List Char) : trimLeft (front ++ (text ++ rest)) = text ++ rest := by
  rw [trimLeft_gap before]
  apply trimLeft_of_head
  cases spells with
  | @pair name gap gap' raw value valid _ _ _ =>
    cases name with
    | nil => cases valid
    | cons first name =>
      rintro c ⟨⟩
      exact isBlank_nameChar (isNameChar_labelName valid first List.mem_cons_self)

/-- Behind labels the text is read on from the next comma. -/
theorem readLabels_spells {text : List Char} {labels : List Label}
    (spells : SpellsLabels text labels) {front : List Char}
    (before : ∀ c ∈ front, isBlank c = true) (rest : List Char) :
    readLabels (front ++ (text ++ rest)) =
      match trimLeft rest with
      | [] => .ok labels
      | ',' :: more => (readLabels more).map (labels ++ ·)
      | other => .error ⟨.missingComma, other⟩ := by
  induction spells generalizing front with
  | single own =>
    have found := readLabel_spells own rest
    rw [← trimLeft_spells before own rest] at found
    exact readLabels_step found
  | @cons text gap gap' more label labels own between after others ih =>
    have shape : front ++ (text ++ (gap ++ ',' :: (gap' ++ more)) ++ rest) =
        front ++ (text ++ (gap ++ ',' :: (gap' ++ (more ++ rest)))) := by
      simp only [List.append_assoc, List.cons_append]
    have found := readLabel_spells own (gap ++ ',' :: (gap' ++ (more ++ rest)))
    rw [← trimLeft_spells before own] at found
    rw [shape, readLabels_step found, trimLeft_gap between, trimLeft_cons rfl]
    simp only [ih after]
    split
    · rfl
    · rename_i later _
      cases readLabels later <;> rfl
    · rfl

theorem readLabels_eq_ok_iff {text : List Char} {labels : List Label} :
    readLabels text = .ok labels ↔ SpellsSet text labels := by
  constructor
  · intro read
    fun_induction readLabels text generalizing labels with
    | case1 text none =>
      cases read
      exact .empty (blank_of_trimLeft (List.isEmpty_iff.mp none))
    | case2 text _ unread failed => cases read
    | case3 text _ label rest found none =>
      cases read
      obtain ⟨front, before, shape⟩ := exists_gap text
      obtain ⟨own, spells, same⟩ := readLabel_eq_ok_iff.mp found
      rw [shape, same]
      exact .labels before (.single spells) (.blank (blank_of_trimLeft none))
    | case4 text _ label rest found more comma ih =>
      obtain ⟨others, later, rfl⟩ := exists_of_map_ok read
      obtain ⟨front, before, shape⟩ := exists_gap text
      obtain ⟨own, spells, same⟩ := readLabel_eq_ok_iff.mp found
      obtain ⟨gap, between, shape'⟩ := exists_gap rest
      rw [shape, same, shape', comma]
      exact .cons before spells between (ih later)
    | case5 => cases read
  · intro spells
    cases spells with
    | empty blank => exact readLabels_blank blank
    | labels before spells ends =>
      rw [readLabels_spells spells before]
      cases ends with
      | blank blank =>
        have none : trimLeft _ = [] := List.dropWhile_eq_nil_iff.mpr blank
        rw [none]
      | comma between after =>
        rw [trimLeft_gap between, trimLeft_cons rfl]
        simp only [readLabels_blank after, Except.map, List.append_nil]

theorem SpellsSet.valid {text : List Char} {labels : List Label} (spells : SpellsSet text labels) :
    ∀ label ∈ labels, isLabelName label.name.toList = true := by
  have own {text : List Char} {label : Label} (spells : SpellsLabel text label) :
      isLabelName label.name.toList = true := by
    cases spells with
    | pair valid => rwa [String.toList_ofList]
  cases spells with
  | empty => exact List.forall_mem_nil _
  | labels _ spells =>
    induction spells with
    | single first => exact List.forall_mem_singleton.mpr (own first)
    | cons first _ _ _ ih => exact List.forall_mem_cons.mpr ⟨own first, ih⟩

/-! Faults -/

theorem suffix_of_readLabel {text : List Char} {unread : Unread}
    (failed : readLabel text = .error unread) : unread.text <:+ text := by
  unfold readLabel at failed
  simp only at failed
  split at failed
  · cases failed
    exact List.suffix_rfl
  split at failed
  · rename_i afterEquals equals
    have start : afterEquals <:+ text := by
      have tail := List.suffix_cons '=' afterEquals
      rw [← equals] at tail
      exact (tail.trans (List.dropWhile_suffix _)).trans (List.dropWhile_suffix _)
    have value : trimLeft afterEquals <:+ text := (List.dropWhile_suffix _).trans start
    split at failed
    · rename_i body quote
      split at failed
      · cases failed
      · cases failed
        rwa [quote] at value
    · cases failed
      exact value
  · cases failed
    exact List.suffix_rfl

/-- What is not read is an end of the text. -/
theorem suffix_of_readLabels {text : List Char} {unread : Unread}
    (failed : readLabels text = .error unread) : unread.text <:+ text := by
  have behind {text own rest : List Char} (split : trimLeft text = own ++ rest) :
      trimLeft rest <:+ text :=
    ((List.dropWhile_suffix _).trans ⟨own, split.symm⟩).trans (List.dropWhile_suffix _)
  fun_induction readLabels text with
  | case1 => cases failed
  | case2 text _ fault found =>
    cases failed
    exact (suffix_of_readLabel found).trans (List.dropWhile_suffix _)
  | case3 => cases failed
  | case4 text _ label rest found more comma ih =>
    obtain ⟨own, _, split⟩ := readLabel_eq_ok_iff.mp found
    have later : readLabels more = .error unread := by
      cases read : readLabels more with
      | ok labels =>
        rw [read] at failed
        cases failed
      | error other =>
        rw [read] at failed
        rw [Except.error.inj failed]
    have after : more <:+ trimLeft rest := by
      rw [comma]
      exact List.suffix_cons ',' more
    exact (ih later).trans (after.trans (behind split))
  | case5 text _ label rest found =>
    cases failed
    obtain ⟨own, _, split⟩ := readLabel_eq_ok_iff.mp found
    exact behind split

namespace LabelSet

theorem read_eq_ok_iff {text : List Char} {labels : LabelSet} :
    read text = .ok labels ↔ ∃ sequence, SpellsSet text sequence ∧ labels = ofLabels sequence := by
  unfold read
  cases found : readLabels text with
  | ok sequence =>
    have spells := readLabels_eq_ok_iff.mp found
    constructor
    · intro same
      exact ⟨sequence, spells, (Except.ok.inj same).symm⟩
    · rintro ⟨other, spells', rfl⟩
      rw [Except.ok.inj (found.symm.trans (readLabels_eq_ok_iff.mpr spells'))]
  | error unread =>
    constructor
    · intro same
      cases same
    · rintro ⟨other, spells, rfl⟩
      cases found.symm.trans (readLabels_eq_ok_iff.mpr spells)

theorem read_eq_error {text : List Char} {malformed : MalformedLabel}
    (failed : read text = .error malformed) :
    ∃ before after, text = before ++ after ∧ malformed.position = byteLength before := by
  unfold read at failed
  cases found : readLabels text with
  | ok sequence =>
    rw [found] at failed
    cases failed
  | error unread =>
    rw [found] at failed
    cases failed
    obtain ⟨before, split⟩ := suffix_of_readLabels found
    refine ⟨before, unread.text, split.symm, ?_⟩
    rw [← split, byteLength_append, Nat.add_sub_cancel]

/--
A text is read exactly if it is a label set of the grammar, and each name then has the value of its
last label. The place of a fault is inside the text and between two characters.
-/
theorem read_follows_grammar (text : List Char) :
    ((∃ labels, read text = .ok labels) ↔ ∃ sequence, SpellsSet text sequence) ∧
      (∀ labels, read text = .ok labels ↔
        ∃ sequence, SpellsSet text sequence ∧
          ∀ name : String, labels[name]? = lastValue? name sequence) ∧
      ∀ malformed, read text = .error malformed →
        malformed.position ≤ byteLength text ∧
          ∃ before after, text = before ++ after ∧ malformed.position = byteLength before := by
  refine ⟨⟨?_, ?_⟩, fun labels => ⟨?_, ?_⟩, fun malformed failed => ?_⟩
  · rintro ⟨labels, found⟩
    obtain ⟨sequence, spells, _⟩ := read_eq_ok_iff.mp found
    exact ⟨sequence, spells⟩
  · rintro ⟨sequence, spells⟩
    exact ⟨ofLabels sequence, read_eq_ok_iff.mpr ⟨sequence, spells, rfl⟩⟩
  · intro found
    obtain ⟨sequence, spells, rfl⟩ := read_eq_ok_iff.mp found
    exact ⟨sequence, spells, getElem?_ofLabels_last sequence⟩
  · rintro ⟨sequence, spells, last⟩
    refine read_eq_ok_iff.mpr ⟨sequence, spells, Std.ExtTreeMap.ext_getElem? fun name => ?_⟩
    rw [last name, getElem?_ofLabels_last]
  · obtain ⟨before, after, rfl, place⟩ := read_eq_error failed
    rw [place, byteLength_append]
    exact ⟨Nat.le_add_right _ _, before, after, rfl, rfl⟩

/-- Blanks, escapes, a name that comes twice, and a comma behind the last label. -/
example :
    (read " a = \"x\\n\\t\" , b=\"\",a=\"\x7d\" ,".toList).toOption.map toLabels =
      some [⟨"a", "\x7d"⟩, ⟨"b", ""⟩] := by
  decide +kernel

end LabelSet
end CoreWatch.Exposition
