import CoreWatch.Proofs.Exposition.LabelGrammar

set_option autoImplicit false

/-!
The brace that closes a label set. What is looked for is the first brace outside quotes, and for
every text that is read as a label set this is the brace behind it.
-/

namespace CoreWatch.Exposition

open Text

theorem splitAtBrace_plain {inQuotes : Bool} {c : Char} (quote : c ≠ '"')
    (brace : inQuotes = false → c ≠ '\x7d') (backslash : inQuotes = true → c ≠ '\\')
    (rest : List Char) :
    splitAtBrace inQuotes (c :: rest) =
      (splitAtBrace inQuotes rest).map fun (body, after) => (c :: body, after) := by
  rw [splitAtBrace.eq_def]
  cases inQuotes with
  | false => simp only [brace rfl, quote, decide_false, Bool.false_and, Bool.and_false,
      Bool.false_eq_true, ↓reduceIte]
  | true => simp only [backslash rfl, quote, decide_false, Bool.false_and, Bool.not_true,
      Bool.and_false, Bool.false_eq_true, ↓reduceIte]

theorem splitAtBrace_quote (inQuotes : Bool) (rest : List Char) :
    splitAtBrace inQuotes ('"' :: rest) =
      (splitAtBrace (!inQuotes) rest).map fun (body, after) => ('"' :: body, after) := by
  rw [splitAtBrace.eq_def]
  rfl

theorem splitAtBrace_backslash (c : Char) (rest : List Char) :
    splitAtBrace true ('\\' :: c :: rest) =
      (splitAtBrace true rest).map fun (body, after) => ('\\' :: c :: body, after) := by
  rw [splitAtBrace.eq_def]
  rfl

theorem splitAtBrace_brace (rest : List Char) :
    splitAtBrace false ('\x7d' :: rest) = some ([], rest) := by
  rw [splitAtBrace.eq_def]
  rfl

/-- The text is what stands before the brace, the brace and what stands behind it. -/
theorem splitAtBrace_eq_some {inQuotes : Bool} {text body rest : List Char}
    (found : splitAtBrace inQuotes text = some (body, rest)) : text = body ++ '\x7d' :: rest := by
  fun_induction splitAtBrace inQuotes text generalizing body rest with
  | case1 => cases found
  | case2 inQuotes c tail closes =>
    cases found
    simp only [Bool.and_eq_true, decide_eq_true_eq] at closes
    rw [closes.1, List.nil_append]
  | case3 => cases found
  | case4 inQuotes c next tail _ _ ih =>
    obtain ⟨⟨inner, left⟩, later, same⟩ := Option.map_eq_some_iff.mp found
    cases same
    rw [ih later, List.cons_append, List.cons_append]
  | case5 inQuotes c tail _ _ ih =>
    obtain ⟨⟨inner, left⟩, later, same⟩ := Option.map_eq_some_iff.mp found
    cases same
    rw [ih later, List.cons_append]

/-- A text in which nothing is closed and every quote that is opened ends. -/
def ClosesNothing (text : List Char) : Prop :=
  ∀ rest, splitAtBrace false (text ++ rest) =
    (splitAtBrace false rest).map fun (body, after) => (text ++ body, after)

namespace ClosesNothing

theorem nil : ClosesNothing [] := by
  intro rest
  rw [List.nil_append]
  cases splitAtBrace false rest <;> rfl

theorem append {front back : List Char} (first : ClosesNothing front)
    (second : ClosesNothing back) : ClosesNothing (front ++ back) := by
  intro rest
  rw [List.append_assoc, first, second, Option.map_map]
  simp only [List.append_assoc]
  rfl

theorem cons {c : Char} {text : List Char} (quote : c ≠ '"') (brace : c ≠ '\x7d')
    (others : ClosesNothing text) : ClosesNothing (c :: text) := by
  intro rest
  rw [List.cons_append, splitAtBrace_plain quote (fun _ => brace)
    (fun inside => absurd inside Bool.false_ne_true), others, Option.map_map]
  rfl

theorem of_forall {text : List Char} (outside : ∀ c ∈ text, c ≠ '"' ∧ c ≠ '\x7d') :
    ClosesNothing text := by
  induction text with
  | nil => exact nil
  | cons c text ih =>
    obtain ⟨⟨quote, brace⟩, others⟩ := List.forall_mem_cons.mp outside
    exact (ih others).cons quote brace

theorem of_blank {gap : List Char} (blank : ∀ c ∈ gap, isBlank c = true) : ClosesNothing gap := by
  apply of_forall
  intro c listed
  have other := blank c listed
  constructor
  · rintro rfl
    cases other
  · rintro rfl
    cases other

theorem of_labelName {name : List Char} (valid : isLabelName name = true) :
    ClosesNothing name := by
  apply of_forall
  intro c listed
  have inner := isNameChar_labelName valid c listed
  exact ⟨ne_of_isNameChar inner rfl, ne_of_isNameChar inner rfl⟩

end ClosesNothing

/-- Inside quotes a text goes on to the quote that ends the value. -/
theorem splitAtBrace_quotes {raw value : List Char} (quotes : Quotes raw value)
    (rest : List Char) :
    splitAtBrace true (raw ++ '"' :: rest) =
      (splitAtBrace false rest).map fun (body, after) => (raw ++ '"' :: body, after) := by
  have pair {raw : List Char} (c : Char)
      (ih : splitAtBrace true (raw ++ '"' :: rest) =
        (splitAtBrace false rest).map fun (body, after) => (raw ++ '"' :: body, after)) :
      splitAtBrace true ('\\' :: c :: raw ++ '"' :: rest) =
        (splitAtBrace false rest).map fun (body, after) =>
          ('\\' :: c :: raw ++ '"' :: body, after) := by
    rw [List.cons_append, List.cons_append, splitAtBrace_backslash, ih, Option.map_map]
    rfl
  induction quotes with
  | nil => exact splitAtBrace_quote true rest
  | plain quote backslash _ ih =>
    rw [List.cons_append, splitAtBrace_plain quote
      (fun outside => absurd outside.symm Bool.false_ne_true) (fun _ => backslash), ih,
      Option.map_map]
    rfl
  | newline _ ih => exact pair 'n' ih
  | quote _ ih => exact pair '"' ih
  | backslash _ ih => exact pair '\\' ih
  | other _ _ _ _ ih => exact pair _ ih

theorem Quotes.closesNothing {raw value : List Char} (quotes : Quotes raw value) :
    ClosesNothing ('"' :: (raw ++ ['"'])) := by
  intro rest
  have shape (rest : List Char) : '"' :: (raw ++ ['"']) ++ rest = '"' :: (raw ++ '"' :: rest) := by
    rw [List.cons_append, List.append_assoc, List.singleton_append]
  rw [shape, splitAtBrace_quote, Bool.not_false, splitAtBrace_quotes quotes, Option.map_map]
  simp only [shape]
  rfl

theorem SpellsLabel.closesNothing {text : List Char} {label : Label}
    (spells : SpellsLabel text label) : ClosesNothing text := by
  cases spells with
  | pair valid before after quotes =>
    have value := (ClosesNothing.of_blank after).append quotes.closesNothing
    have sign : ClosesNothing ('=' :: _) := value.cons (by decide) (by decide)
    exact (ClosesNothing.of_labelName valid).append ((ClosesNothing.of_blank before).append sign)

theorem SpellsLabels.closesNothing {text : List Char} {labels : List Label}
    (spells : SpellsLabels text labels) : ClosesNothing text := by
  induction spells with
  | single own => exact own.closesNothing
  | cons own before after _ ih =>
    have others := (ClosesNothing.of_blank after).append ih
    have comma : ClosesNothing (',' :: _) := others.cons (by decide) (by decide)
    exact own.closesNothing.append ((ClosesNothing.of_blank before).append comma)

theorem SpellsSet.closesNothing {text : List Char} {labels : List Label}
    (spells : SpellsSet text labels) : ClosesNothing text := by
  cases spells with
  | empty blank => exact .of_blank blank
  | labels before spells ends =>
    refine (ClosesNothing.of_blank before).append (spells.closesNothing.append ?_)
    cases ends with
    | blank blank => exact .of_blank blank
    | comma before after =>
      exact (ClosesNothing.of_blank before).append
        ((ClosesNothing.of_blank after).cons (by decide) (by decide))

/-- The brace behind a label set closes it, whatever follows. -/
theorem splitAtBrace_spells {text : List Char} {labels : List Label}
    (spells : SpellsSet text labels) (rest : List Char) :
    splitAtBrace false (text ++ '\x7d' :: rest) = some (text, rest) := by
  rw [spells.closesNothing, splitAtBrace_brace]
  simp only [Option.map_some, List.append_nil]

theorem splitAtBrace_read {text : List Char} {labels : LabelSet}
    (read : LabelSet.read text = .ok labels) (rest : List Char) :
    splitAtBrace false (text ++ '\x7d' :: rest) = some (text, rest) := by
  obtain ⟨sequence, spells, _⟩ := LabelSet.read_eq_ok_iff.mp read
  exact splitAtBrace_spells spells rest

end CoreWatch.Exposition
