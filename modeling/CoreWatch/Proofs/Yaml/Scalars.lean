import CoreWatch.Proofs.Text.Blanks
import CoreWatch.Yaml.Node
import CoreWatch.Yaml.Quoted
import Mathlib.Data.List.DropRight

set_option autoImplicit false

/-!
Reading a text back from a YAML document in which it stands plain, between quotes, or line by line.
Whatever the style, the text is read as it was written, and what follows its line is left.
-/

namespace CoreWatch.Yaml

/-! Single quotes -/

/-- Reads up to the closing quote. Blanks behind a line end only indent what follows. -/
def readSingle : (afterBreak : Bool) → List Char → Option (List Char × List Char)
  | _, [] => none
  | _, '\'' :: '\'' :: rest => (readSingle false rest).map (Prod.map ('\'' :: ·) id)
  | _, '\'' :: rest => some ([], rest)
  | afterBreak, c :: rest =>
    if afterBreak && isSpaceChar c then readSingle true rest
    else (readSingle (isBreak c) rest).map (Prod.map (c :: ·) id)

theorem ne_of_isBreak {c : Char} (ends : isBreak c = true) : c ≠ '\'' ∧ c ≠ ' ' := by
  constructor <;> rintro rfl <;> exact absurd ends (by decide)

theorem readSingle_spaces (n : Nat) (text : List Char) :
    readSingle true (spaces n ++ text) = readSingle true text := by
  induction n with
  | zero => rfl
  | succ n ih => exact ih

theorem readSingle_other {c : Char} (other : c ≠ '\'') (afterBreak : Bool) (rest : List Char) :
    readSingle afterBreak (c :: rest) =
      if afterBreak && isSpaceChar c then readSingle true rest
      else (readSingle (isBreak c) rest).map (Prod.map (c :: ·) id) := by
  rw [readSingle]
  · exact fun _ same => absurd same other
  · exact other

/-- Two classes of characters of which a text has no pair: none in front either. -/
theorem hasPair_cons_eq_false {first second : Char → Bool} {c : Char} {rest : List Char} :
    hasPair first second (c :: rest) = false ↔
      (first c = true → ∀ d ∈ rest.head?, second d = false) ∧
        hasPair first second rest = false := by
  cases rest with
  | nil => simp [hasPair]
  | cons d rest => simp [hasPair]

theorem readSingle_writeSingle (indent : Nat) {text : List Char}
    (allowed : hasPair isBreak isSpaceChar text = false) (afterBreak : Bool)
    (head : afterBreak = true → ∀ c ∈ text.head?, isSpaceChar c = false) {rest : List Char}
    (next : rest.head? ≠ some '\'') :
    readSingle afterBreak (writeSingle indent afterBreak text ++ '\'' :: rest) =
      some (text, rest) := by
  induction text generalizing afterBreak with
  | nil =>
    have closes : readSingle afterBreak ('\'' :: rest) = some ([], rest) := by
      cases rest with
      | nil => rfl
      | cons c rest =>
        rw [readSingle]
        intro _ same
        exact next (congrArg List.head? same)
    cases afterBreak with
    | false => exact closes
    | true =>
      rw [writeSingle, if_pos rfl, readSingle_spaces]
      exact closes
  | cons c text ih =>
    obtain ⟨apart, allowed⟩ := hasPair_cons_eq_false.mp allowed
    rw [writeSingle]
    cases ends : isBreak c with
    | true =>
      obtain ⟨other, visible⟩ := ne_of_isBreak ends
      have kept : isSpaceChar c = false := decide_eq_false visible
      rw [if_pos rfl, List.cons_append, readSingle_other other, kept, Bool.and_false,
        if_neg Bool.false_ne_true, ends, ih allowed true fun _ => apart ends]
      rfl
    | false =>
      have kept : (afterBreak && isSpaceChar c) = false := by
        cases afterBreak with
        | false => rfl
        | true => exact head rfl c rfl
      have inner := ih allowed false nofun
      have step : readSingle afterBreak
          ((if c = '\'' then ['\'', '\''] else [c]) ++ writeSingle indent false text ++
            '\'' :: rest) = some (c :: text, rest) := by
        by_cases quote : c = '\''
        · subst quote
          change (readSingle false (writeSingle indent false text ++ _)).map _ = _
          rw [inner]
          rfl
        · rw [if_neg quote, List.singleton_append, List.cons_append, readSingle_other quote, kept,
            if_neg Bool.false_ne_true, ends, inner]
          rfl
      rw [if_neg Bool.false_ne_true]
      cases afterBreak with
      | false => exact step
      | true =>
        rw [if_pos rfl, List.append_assoc, List.append_assoc, readSingle_spaces,
          ← List.append_assoc]
        exact step

/-! Double quotes -/

/-- Reads up to the closing quote. -/
def readDouble : List Char → Option (List Char × List Char)
  | [] => none
  | c :: rest =>
    if c = '"' then some ([], rest)
    else if c = '\\' then
      match Quoted.readEscape? rest with
      | none => none
      | some (value, width) => (readDouble (rest.drop width)).map (Prod.map (value :: ·) id)
    else (readDouble rest).map (Prod.map (c :: ·) id)
termination_by text => text.length
decreasing_by
  · simp only [List.length_drop, List.length_cons]
    omega
  · simp only [List.length_cons]
    omega

/-- Few characters are not printable. -/
theorem toNat_of_hidden {c : Char} (hidden : isPrintable c = false) :
    c.toNat < 0xA0 ∨ c.toNat ∈ [0xFEFF, 0xFFFE, 0xFFFF] := by
  have valid : c.toNat < 0xD800 ∨ 0xDFFF < c.toNat ∧ c.toNat < 0x110000 := c.valid
  simp only [isPrintable, Bool.or_eq_false_iff, Bool.and_eq_false_iff, decide_eq_false_iff_not,
    bne_eq_false_iff_eq] at hidden
  simp only [List.mem_cons, List.not_mem_nil, or_false]
  omega

/-- An escape is read as the character that it stands for. -/
def Escapes (c : Char) (code : List Char) : Prop :=
  ∀ rest, Quoted.readEscape? (code ++ rest) = some (c, code.length)

theorem char?_upperHex_two :
    ∀ n < 0xA0, (upperHex 2 n).length = 2 ∧ Digits.char? (upperHex 2 n) = some (Char.ofNat n) := by
  decide +kernel

theorem char?_upperHex_four :
    ∀ n ∈ [0xFEFF, 0xFFFE, 0xFFFF],
      (upperHex 4 n).length = 4 ∧ Digits.char? (upperHex 4 n) = some (Char.ofNat n) := by
  decide +kernel

theorem escapes_two {c : Char} {digits : List Char} (width : digits.length = 2)
    (stands : Digits.char? digits = some c) : Escapes c ('x' :: digits) := by
  obtain ⟨a, b, rfl⟩ := List.length_eq_two.mp width
  intro rest
  change (Digits.char? [a, b]).map _ = _
  rw [stands]
  rfl

theorem escapes_four {c : Char} {digits : List Char} (width : digits.length = 4)
    (stands : Digits.char? digits = some c) : Escapes c ('u' :: digits) := by
  intro rest
  match digits, width with
  | [a, b, d, e], _ =>
    change (Digits.char? [a, b, d, e]).map _ = _
    rw [stands]
    rfl

/-- The characters that need a number are read by it. -/
theorem escapes_hidden {c : Char} (hidden : isPrintable c = false) :
    ∃ code, (if c.toNat < 0x100 then '\\' :: 'x' :: upperHex 2 c.toNat
      else if c.toNat < 0x10000 then '\\' :: 'u' :: upperHex 4 c.toNat
      else '\\' :: 'U' :: upperHex 8 c.toNat) = '\\' :: code ∧ Escapes c code := by
  rcases toNat_of_hidden hidden with low | high
  · obtain ⟨width, stands⟩ := char?_upperHex_two c.toNat low
    rw [Char.ofNat_toNat] at stands
    rw [if_pos (by omega)]
    exact ⟨_, rfl, escapes_two width stands⟩
  · obtain ⟨width, stands⟩ := char?_upperHex_four c.toNat high
    rw [Char.ofNat_toNat] at stands
    have bounds : ¬ c.toNat < 0x100 ∧ c.toNat < 0x10000 := by
      simp only [List.mem_cons, List.not_mem_nil, or_false] at high
      omega
    rw [if_neg bounds.1, if_pos bounds.2]
    exact ⟨_, rfl, escapes_four width stands⟩

theorem escapeDouble_cases (c : Char) :
    (escapeDouble c = [c] ∧ c ≠ '"' ∧ c ≠ '\\') ∨
      ∃ code, escapeDouble c = '\\' :: code ∧ Escapes c code := by
  unfold escapeDouble
  split
  case h_15 quote backslash _ _ _ _ _ _ _ _ _ _ _ _ =>
    cases shown : isPrintable c with
    | true => exact .inl ⟨rfl, quote, backslash⟩
    | false => exact .inr (escapes_hidden shown)
  all_goals exact .inr ⟨_, rfl, fun _ => rfl⟩

theorem readDouble_escapeDouble (c : Char) (rest : List Char) :
    readDouble (escapeDouble c ++ rest) = (readDouble rest).map (Prod.map (c :: ·) id) := by
  rcases escapeDouble_cases c with ⟨plain, quote, backslash⟩ | ⟨code, escaped, escapes⟩
  · rw [plain, List.singleton_append, readDouble, if_neg quote, if_neg backslash]
  · rw [escaped, List.cons_append, readDouble, if_neg (by decide), if_pos rfl, escapes]
    simp only [List.drop_left]

theorem readDouble_flatMap (text rest : List Char) :
    readDouble (text.flatMap escapeDouble ++ '"' :: rest) = some (text, rest) := by
  induction text with
  | nil =>
    rw [List.flatMap_nil, List.nil_append, readDouble, if_pos rfl]
  | cons c text ih =>
    rw [List.flatMap_cons, List.append_assoc, readDouble_escapeDouble, ih]
    rfl

/-! Line by line -/

/--
Reads the lines that are indented, with their ends, and leaves the first one that is not. At the
start of a line so many blanks have been passed over.
-/
def readLines (indent : Nat) : (margin : Option Nat) → List Char → List Char × List Char
  | _, [] => ([], [])
  | none, c :: rest =>
    let (lines, after) := readLines indent (if isBreak c then some 0 else none) rest
    (c :: lines, after)
  | some passed, c :: rest =>
    if isSpaceChar c && passed < indent then readLines indent (some (passed + 1)) rest
    else if passed = indent || (passed = 0 && isBreak c) then
      let (lines, after) := readLines indent (if isBreak c then some 0 else none) rest
      (c :: lines, after)
    else ([], spaces passed ++ c :: rest)

/-- Nothing follows, or a line that is less indented. -/
def Stops (indent : Nat) (rest : List Char) : Prop :=
  rest = [] ∨ ∃ passed c tail, rest = spaces passed ++ c :: tail ∧ passed < indent ∧
    isSpaceChar c = false ∧ isBreak c = false

theorem readLines_spaces {indent passed n : Nat} (room : passed + n ≤ indent) (rest : List Char) :
    readLines indent (some passed) (spaces n ++ rest) =
      readLines indent (some (passed + n)) rest := by
  induction n generalizing passed with
  | zero => rfl
  | succ n ih =>
    have more : (isSpaceChar ' ' && decide (passed < indent)) = true := by
      rw [Bool.and_eq_true, decide_eq_true_eq]
      exact ⟨rfl, by omega⟩
    change readLines indent (some passed) (' ' :: (spaces n ++ rest)) = _
    rw [readLines, if_pos more, ih (by omega), Nat.add_assoc, Nat.add_comm 1]

theorem readLines_of_stops {indent : Nat} {rest : List Char} (stops : Stops indent rest) :
    readLines indent (some 0) rest = ([], rest) := by
  rcases stops with rfl | ⟨passed, c, tail, rfl, less, visible, inside⟩
  · rfl
  · rw [readLines_spaces (by omega), Nat.zero_add, readLines, visible, inside]
    have short : ¬ passed = indent := by omega
    simp [short]

/-- Text that ends with a line end, so that its lines are told from what follows. -/
def EndsLine (text : List Char) : Prop :=
  ∃ c ∈ text.getLast?, isBreak c = true

theorem readLines_writeLines (indent : Nat) {text rest : List Char} (stops : Stops indent rest)
    (atStart : Bool) (ends : (text = [] ∧ atStart = true) ∨ EndsLine text) :
    readLines indent (if atStart then some 0 else none) (writeLines indent atStart text ++ rest) =
      (text, rest) := by
  induction text generalizing atStart with
  | nil =>
    obtain ⟨_, rfl⟩ | ⟨c, none, _⟩ := ends
    · exact readLines_of_stops stops
    · cases none
  | cons c text ih =>
    obtain ⟨last, atEnd, broken⟩ := ends.resolve_left nofun
    have later (some : text ≠ []) : EndsLine text := by
      refine ⟨last, ?_, broken⟩
      rw [List.getLast?_cons_of_ne_nil some] at atEnd
      exact atEnd
    rw [writeLines]
    cases breaks : isBreak c with
    | true =>
      have visible : isSpaceChar c = false := decide_eq_false (ne_of_isBreak breaks).2
      have inner := ih true (or_iff_not_imp_left.mpr fun more => later fun none => more ⟨none, rfl⟩)
      rw [if_pos rfl] at inner
      cases atStart <;> simp [readLines, breaks, visible, inner]
    | false =>
      have more : text ≠ [] := by
        rintro rfl
        cases atEnd
        exact Bool.false_ne_true (breaks.symm.trans broken)
      have inner := ih false (.inr (later more))
      rw [if_neg Bool.false_ne_true] at inner
      cases atStart with
      | false => simp [readLines, breaks, inner]
      | true =>
        rw [if_neg Bool.false_ne_true, if_pos rfl, if_pos rfl, List.append_assoc,
          readLines_spaces (by omega), Nat.zero_add]
        simp [readLines, breaks, inner]

theorem writeLines_concat (indent : Nat) (atStart : Bool) (text : List Char) :
    writeLines indent atStart (text ++ ['\n']) = writeLines indent atStart text ++ ['\n'] := by
  induction text generalizing atStart with
  | nil => rfl
  | cons c text ih =>
    rw [List.cons_append, writeLines, writeLines, ih, ih]
    split
    · rfl
    · rw [List.append_assoc, List.cons_append]

/-- Reads a text after the bar: its marks, and the lines behind them. -/
def readLiteral (indent : Nat) (text : List Char) : Option (List Char × List Char) :=
  let marks := if text.head? = some '2' then text.drop 1 else text
  match marks with
  | '-' :: '\n' :: rest =>
    let (lines, after) := readLines indent (some 0) rest
    some (lines.rdropWhile isBreak, after)
  | '+' :: '\n' :: rest => some (readLines indent (some 0) rest)
  | '\n' :: rest =>
    let (lines, after) := readLines indent (some 0) rest
    some (lines.rdropWhile isBreak ++ (lines.rtakeWhile isBreak).take 1, after)
  | _ => none

/-- The lines of a text, the last one of which is ended. -/
def endedLines (text : List Char) : List Char :=
  if text.getLast?.any isBreak then text else text ++ ['\n']

theorem endsLine_endedLines (text : List Char) : EndsLine (endedLines text) := by
  rw [endedLines]
  split
  · rename_i ends
    cases atEnd : text.getLast? with
    | none =>
      rw [atEnd] at ends
      cases ends
    | some c =>
      rw [atEnd] at ends
      exact ⟨c, atEnd, ends⟩
  · exact ⟨'\n', List.getLast?_concat, rfl⟩

/-- How the mark of a text and the end of its lines belong together. -/
theorem chomping_cases {text : List Char} (some : text ≠ []) :
    (chomping text = ['-'] ∧ (endedLines text).rdropWhile isBreak = text) ∨
      (chomping text = ['+'] ∧ endedLines text = text) ∨
      chomping text = [] ∧ (endedLines text).rdropWhile isBreak ++
        ((endedLines text).rtakeWhile isBreak).take 1 = text := by
  obtain ⟨init, c, rfl⟩ := (List.eq_nil_or_concat text).resolve_left some
  rw [List.concat_eq_append, endedLines, List.getLast?_concat, Option.any_some, chomping,
    List.reverse_concat]
  cases ends : isBreak c with
  | false =>
    refine .inl ⟨by simp [ends], ?_⟩
    rw [if_neg Bool.false_ne_true, List.rdropWhile_concat_pos _ _ _ (by decide),
      List.rdropWhile_concat_neg _ _ _ (by rw [ends]; decide)]
  | true =>
    rw [if_pos rfl]
    rcases List.eq_nil_or_concat init with rfl | ⟨front, d, rfl⟩
    · exact .inr (.inl ⟨by simp [ends], rfl⟩)
    · rw [List.concat_eq_append, List.reverse_concat]
      cases before : isBreak d with
      | true => exact .inr (.inl ⟨by simp [ends, before], rfl⟩)
      | false =>
        refine .inr (.inr ⟨by simp [ends, before], ?_⟩)
        have still : ¬ isBreak d = true := by rw [before]; decide
        rw [List.rdropWhile_concat_pos _ _ _ ends, List.rdropWhile_concat_neg _ _ _ still,
          List.rtakeWhile_concat_pos _ _ _ ends, List.rtakeWhile_concat_neg _ _ _ still]
        rfl

theorem readLiteral_literalHead (indent : Nat) {text rest : List Char} (nonempty : text ≠ [])
    (stops : Stops indent rest) :
    readLiteral indent ((literalHead text).tail ++
        '\n' :: (writeLines indent true (endedLines text) ++ rest)) =
      some (text, rest) := by
  have lines := readLines_writeLines indent stops true (.inr (endsLine_endedLines text))
  rw [if_pos rfl] at lines
  simp only [literalHead, List.cons_append, List.tail_cons]
  rcases chomping_cases nonempty with ⟨mark, same⟩ | ⟨mark, same⟩ | ⟨mark, same⟩
  · rw [mark]
    split <;> simp [readLiteral, lines, same]
  · rw [same] at lines
    rw [mark, same]
    split <;> simp [readLiteral, lines]
  · rw [mark]
    split <;> simp [readLiteral, lines, same]

/-! All styles -/

/-- The end of the line on which a text has been read. -/
def readEnd (read : Option (List Char × List Char)) : Option (String × List Char) :=
  read.bind fun (text, after) =>
    match after with
    | '\n' :: rest => some (String.ofList text, rest)
    | _ => none

/-- Reads a text that stands plain up to the end of its line, and cannot be mistaken. -/
def readPlain (text : List Char) : Option (List Char × List Char) :=
  let word := text.takeWhile (· != '\n')
  if !isTaken (String.ofList word) && plainAllowed word then some (word, text.drop word.length)
  else none

/-- Reads a text up to the end of its last line. -/
def readScalar (indent : Nat) (text : List Char) : Option (String × List Char) :=
  if text.head? = some '\'' then readEnd (readSingle false text.tail)
  else if text.head? = some '"' then readEnd (readDouble text.tail)
  else if text.head? = some '|' then (readLiteral indent text.tail).map (Prod.map String.ofList id)
  else readEnd (readPlain text)

theorem of_styleOf_plain {text : String} (plain : styleOf text = .plain) :
    '\n' ∉ text.toList ∧ isTaken text = false ∧ plainAllowed text.toList = true := by
  simp only [styleOf] at plain
  split at plain
  · split at plain <;> cases plain
  · rename_i whole
    split at plain
    · rename_i allowed
      rw [Bool.and_eq_true, Bool.not_eq_true'] at allowed
      exact ⟨fun inside => whole (List.contains_iff_mem.mpr inside), allowed⟩
    · split at plain <;> cases plain

theorem of_styleOf_singleQuoted {text : String} (quoted : styleOf text = .singleQuoted) :
    hasPair isBreak isSpaceChar text.toList = false := by
  have allowed : singleQuotedAllowed text.toList = true := by
    simp only [styleOf] at quoted
    split at quoted
    · split at quoted <;> cases quoted
    · split at quoted
      · cases quoted
      · split at quoted
        · assumption
        · cases quoted
  rw [singleQuotedAllowed, Bool.and_eq_true, Bool.and_eq_true, Bool.not_eq_true'] at allowed
  exact allowed.1.2

theorem of_styleOf_literal {text : String} (literal : styleOf text = .literal) :
    text.toList ≠ [] := by
  intro none
  simp only [styleOf, none, List.contains_nil, Bool.false_eq_true, ↓reduceIte] at literal
  split at literal
  · cases literal
  · split at literal <;> cases literal

/-- A plain text begins with none of the characters that begin something else. -/
theorem plain_head {c : Char} {rest : List Char} (allowed : plainAllowed (c :: rest) = true) :
    c ∉ leadingIndicators := by
  intro leading
  have marked : hasIndicator (c :: rest) = true := by
    simp [hasIndicator, leading]
  rw [plainAllowed, marked, Bool.not_true, Bool.and_false] at allowed
  cases allowed

theorem readPlain_word {word : List Char} (whole : '\n' ∉ word)
    (free : isTaken (String.ofList word) = false) (allowed : plainAllowed word = true)
    (rest : List Char) : readPlain (word ++ '\n' :: rest) = some (word, '\n' :: rest) := by
  have front : (word ++ '\n' :: rest).takeWhile (· != '\n') = word := by
    refine (Text.takeWhile_append_stop (fun c listed => ?_) fun c first => ?_).1
    · rw [bne_iff_ne]
      rintro rfl
      exact whole listed
    · cases first
      rfl
  rw [readPlain, front, free, allowed, List.drop_left]
  rfl

theorem readScalar_plain {indent : Nat} {word : List Char} (some : word ≠ [])
    (allowed : plainAllowed word = true) (rest : List Char) :
    readScalar indent (word ++ rest) = readEnd (readPlain (word ++ rest)) := by
  cases word with
  | nil => exact absurd rfl some
  | cons c word =>
    have other := plain_head allowed
    simp only [leadingIndicators, List.mem_cons, not_or] at other
    simp [readScalar, other]

/-- A text is read as it was written, up to the end of its last line. -/
theorem readScalar_scalarLine (indent : Nat) (text : String) {rest : List Char}
    (stops : Stops indent rest) :
    readScalar indent (Node.scalarLine indent text ++ rest) = some (text, rest) := by
  cases style : styleOf text with
  | plain =>
    obtain ⟨whole, free, allowed⟩ := of_styleOf_plain style
    have nonempty : text.toList ≠ [] := by
      intro none
      rw [String.toList_eq_nil_iff] at none
      subst none
      exact absurd free (by decide)
    have free' : isTaken (String.ofList text.toList) = false := by rw [String.ofList_toList, free]
    simp only [Node.scalarLine, renderScalar, style, Bool.false_eq_true, ↓reduceIte,
      List.append_assoc, List.singleton_append]
    rw [readScalar_plain nonempty allowed, readPlain_word whole free' allowed]
    simp only [readEnd, Option.bind_some, String.ofList_toList]
  | singleQuoted =>
    have next : ('\n' :: rest).head? ≠ some '\'' := nofun
    have quoted := readSingle_writeSingle indent (of_styleOf_singleQuoted style) false nofun next
    simp only [Node.scalarLine, renderScalar, style, Bool.false_eq_true, ↓reduceIte,
      List.cons_append, List.append_assoc, List.nil_append]
    simp only [readScalar, List.head?_cons, ↓reduceIte, List.tail_cons, quoted, readEnd,
      Option.bind_some, String.ofList_toList]
  | doubleQuoted =>
    simp only [Node.scalarLine, renderScalar, style, Bool.false_eq_true, ↓reduceIte,
      List.cons_append, List.append_assoc, List.nil_append]
    have other : ¬ some '"' = some '\'' := by decide
    simp only [readScalar, List.head?_cons, other, ↓reduceIte, List.tail_cons, readDouble_flatMap,
      readEnd, Option.bind_some, String.ofList_toList]
  | literal =>
    have read := readLiteral_literalHead indent (of_styleOf_literal style) stops
    have line : Node.scalarLine indent text =
        '|' :: ((literalHead text.toList).tail ++
          '\n' :: writeLines indent true (endedLines text.toList)) := by
      simp only [Node.scalarLine, renderScalar, style, endedLines]
      split
      · rfl
      · rw [writeLines_concat]
        simp [literalHead]
    have single : ¬ some '|' = some '\'' := by decide
    have double : ¬ some '|' = some '"' := by decide
    rw [line, List.cons_append, List.append_assoc, List.cons_append]
    simp only [readScalar, List.head?_cons, single, double, ↓reduceIte, List.tail_cons, read,
      Option.map_some, Prod.map_apply, String.ofList_toList, id_eq]

/-- A text is read alike in all styles, also in those in which it would not be written. -/
example :
    ["it's\n", "'it''s'\n", "\"it\\x27s\"\n", "|-\n  it's\n"].map
        (fun line => readScalar 2 line.toList) =
      List.replicate 4 (some ("it's", [])) := by
  decide +kernel

end CoreWatch.Yaml
