import CoreWatch.Proofs.Yaml.Scalars

set_option autoImplicit false

/-!
Reading a document in block layout back. Indentation tells where a list or a record ends, so that
each part of a document is read as it was written, whatever its texts hold.
-/

namespace CoreWatch.Yaml

/-- The characters of keys. -/
def isKeyChar (c : Char) : Bool :=
  c.isAlphanum || c = '_'

def isKey (key : String) : Bool :=
  !key.toList.isEmpty && key.toList.all isKeyChar

/-- Reads a key and the colon behind it. -/
def takeKey (text : List Char) : Option (List Char × List Char) :=
  let key := text.takeWhile isKeyChar
  match text.drop key.length with
  | ':' :: rest =>
    if !key.isEmpty && (rest.head? = some ' ' || rest.head? = some '\n') then some (key, rest)
    else none
  | _ => none

/-- Reads the end of a line: a text, or a list or a record without entries. -/
def readInline (indent : Nat) (text : List Char) : Option (Node × List Char) :=
  match text with
  | '[' :: ']' :: '\n' :: rest => some (.list [], rest)
  | '\x7b' :: '\x7d' :: '\n' :: rest => some (.record [], rest)
  | _ => (readScalar indent text).map (Prod.map .scalar id)

mutual

/-- Reads a value after the colon of a key that is so far indented. -/
def readValue : (fuel : Nat) → (indent : Nat) → List Char → Option (Node × List Char)
  | 0, _, _ => none
  | fuel + 1, indent, text =>
    match text with
    | ' ' :: rest => readInline (indent + step) rest
    | '\n' :: rest =>
      if (spaces indent ++ ['-', ' ']).isPrefixOf rest then
        (readItems fuel indent rest).map (Prod.map .list id)
      else (readMembers fuel (indent + step) false rest).map (Prod.map .record id)
    | _ => none

/-- Reads the items that are so far indented. -/
def readItems : (fuel : Nat) → (indent : Nat) → List Char → Option (List Node × List Char)
  | 0, _, _ => none
  | fuel + 1, indent, text =>
    match text.dropPrefix? (spaces indent ++ ['-', ' ']) with
    | none => some ([], text)
    | some body => do
      let (item, rest) ← readItem fuel indent body
      let (items, rest) ← readItems fuel indent rest
      return (item :: items, rest)

/-- Reads an item after its hyphen. -/
def readItem : (fuel : Nat) → (indent : Nat) → List Char → Option (Node × List Char)
  | 0, _, _ => none
  | fuel + 1, indent, text =>
    match text with
    | '-' :: ' ' :: body => do
      let (item, rest) ← readItem fuel (indent + step) body
      let (items, rest) ← readItems fuel (indent + step) rest
      return (.list (item :: items), rest)
    | _ =>
      if (takeKey text).isSome then
        (readMembers fuel (indent + step) true text).map (Prod.map .record id)
      else readInline (indent + step) text

/-- Reads the members that are so far indented; the first one may stand on a line that has begun. -/
def readMembers : (fuel : Nat) → (indent : Nat) → (begun : Bool) → List Char →
    Option (List (String × Node) × List Char)
  | 0, _, _, _ => none
  | fuel + 1, indent, begun, text =>
    match (text.dropPrefix? (if begun then [] else spaces indent)).bind takeKey with
    | none => some ([], text)
    | some (key, body) => do
      let (value, rest) ← readValue fuel indent body
      let (members, rest) ← readMembers fuel indent false rest
      return ((String.ofList key, value) :: members, rest)

end

/-- The members of a document that is a record. -/
def readRecord? (text : String) : Option (List (String × Node)) :=
  match readMembers (text.length + 1) 0 false text.toList with
  | some (members, []) => some members
  | _ => none

/-! Keys -/

mutual

/-- Whether all keys of a document are words. -/
def Node.isKeyed : Node → Bool
  | .scalar _ => true
  | .list items => Node.areKeyed items
  | .record members => Node.haveKeys members

def Node.areKeyed : List Node → Bool
  | [] => true
  | item :: items => item.isKeyed && Node.areKeyed items

def Node.haveKeys : List (String × Node) → Bool
  | [] => true
  | (key, value) :: members => isKey key && value.isKeyed && Node.haveKeys members

end

theorem takeKey_key {key : String} (word : isKey key = true) {c : Char} (ends : c = ' ' ∨ c = '\n')
    (rest : List Char) :
    takeKey (key.toList ++ ':' :: c :: rest) = some (key.toList, c :: rest) := by
  rw [isKey, Bool.and_eq_true, Bool.not_eq_true'] at word
  have front : (key.toList ++ ':' :: c :: rest).takeWhile isKeyChar = key.toList :=
    (Text.takeWhile_append_stop (List.all_eq_true.mp word.2) fun d first => by cases first; rfl).1
  rw [takeKey, front, List.drop_left]
  rcases ends with rfl | rfl <;> simp [word.1]

/-! What follows -/

/--
The end of the text, a line with a key that is less indented than `member`, or one with an item that
is less indented than `item`.
-/
inductive Resumes (member item : Nat) : List Char → Prop
  | ends : Resumes member item []
  | member {indent : Nat} {c : Char} (tail : List Char) (less : indent < member)
      (word : isKeyChar c = true) : Resumes member item (spaces indent ++ c :: tail)
  | item {indent : Nat} (tail : List Char) (less : indent < item) :
      Resumes member item (spaces indent ++ '-' :: tail)

theorem Resumes.mono {member item member' item' : Nat} {rest : List Char}
    (resumes : Resumes member item rest) (members : member ≤ member') (items : item ≤ item') :
    Resumes member' item' rest := by
  cases resumes with
  | ends => exact .ends
  | member tail less word => exact .member tail (by omega) word
  | item tail less => exact .item tail (by omega)

theorem visible_of_isKeyChar {c : Char} (word : isKeyChar c = true) :
    isSpaceChar c = false ∧ isBreak c = false ∧ c ≠ '-' := by
  refine ⟨Bool.eq_false_iff.mpr fun blank => ?_, Bool.eq_false_iff.mpr fun ends => ?_, ?_⟩
  · obtain rfl : c = ' ' := of_decide_eq_true blank
    exact absurd word (by decide)
  · simp only [isBreak, Bool.or_eq_true, decide_eq_true_eq] at ends
    rcases ends with (((rfl | rfl) | rfl) | rfl) | rfl <;> exact absurd word (by decide)
  · rintro rfl
    exact absurd word (by decide)

/-- What comes after a level comes after an inner level as well. -/
theorem Resumes.inner {indent : Nat} {rest : List Char}
    (resumes : Resumes (indent + 1) (indent + 1) rest) :
    Resumes (indent + step) (indent + step) rest :=
  resumes.mono (Nat.le_succ _) (Nat.le_succ _)

/-- Everything that follows begins a line that is less indented. -/
theorem Resumes.stops {indent : Nat} {rest : List Char} (resumes : Resumes indent indent rest) :
    Stops indent rest := by
  cases resumes with
  | ends => exact .inl rfl
  | @member k c tail less word =>
    obtain ⟨visible, inside, _⟩ := visible_of_isKeyChar word
    exact .inr ⟨k, c, tail, rfl, less, visible, inside⟩
  | @item k tail less => exact .inr ⟨k, '-', tail, rfl, less, by decide, by decide⟩

/-- Lines are told apart by how far they are indented, or by what they begin with. -/
theorem spaces_within {indent other : Nat} {c d : Char} {front tail : List Char}
    (visible : isSpaceChar c = false) (visible' : isSpaceChar d = false)
    (within : spaces indent ++ d :: front <+: spaces other ++ c :: tail) :
    indent = other ∧ d = c := by
  induction indent generalizing other with
  | zero =>
    cases other with
    | zero => exact ⟨rfl, (List.cons_prefix_cons.mp within).1⟩
    | succ other =>
      have same : d = ' ' := (List.cons_prefix_cons.mp within).1
      rw [same] at visible'
      cases visible'
  | succ indent ih =>
    cases other with
    | zero =>
      have same : ' ' = c := (List.cons_prefix_cons.mp within).1
      rw [← same] at visible
      cases visible
    | succ other =>
      obtain ⟨same, first⟩ := ih (List.cons_prefix_cons.mp within).2
      exact ⟨congrArg (· + 1) same, first⟩

theorem dropPrefix?_append (front rest : List Char) :
    (front ++ rest).dropPrefix? front = some rest :=
  List.dropPrefix?_eq_some_iff.mpr ⟨front, rfl, beq_self_eq_true _⟩

theorem dropPrefix?_eq_none {front text : List Char} (apart : ¬ front <+: text) :
    text.dropPrefix? front = none := by
  cases found : text.dropPrefix? front with
  | none => rfl
  | some rest =>
    obtain ⟨same, rfl, equal⟩ := List.dropPrefix?_eq_some_iff.mp found
    rw [eq_of_beq equal] at apart
    exact absurd (List.prefix_append _ _) apart

/-! Texts at the end of a line -/

theorem endsToken_of_inner {afterBlank : Bool} {front tail : List Char}
    (plain : hasInnerIndicator afterBlank (front ++ ':' :: tail) = false) :
    endsToken tail = false := by
  induction front generalizing afterBlank with
  | nil =>
    simp only [List.nil_append, hasInnerIndicator, Bool.or_eq_false_iff, decide_true,
      Bool.true_and] at plain
    exact plain.1.1
  | cons c front ih =>
    rw [List.cons_append, hasInnerIndicator, Bool.or_eq_false_iff] at plain
    exact ih plain.2

/-- In a plain text no colon behind its first character ends a key. -/
theorem endsToken_of_plain {c : Char} {front tail : List Char}
    (allowed : plainAllowed (c :: front ++ ':' :: tail) = true) : endsToken tail = false := by
  rw [plainAllowed, Bool.and_eq_true, Bool.not_eq_true'] at allowed
  have inner := allowed.2
  simp only [List.cons_append, hasIndicator, Bool.or_eq_false_iff] at inner
  exact endsToken_of_inner inner.2.2

theorem takeWhile_line {p : Char → Bool} (stop : p '\n' = false) (word rest : List Char) :
    (word ++ '\n' :: rest).takeWhile p = word.takeWhile p := by
  induction word with
  | nil => simp [stop]
  | cons c word ih => simp only [List.cons_append, List.takeWhile_cons, ih]

theorem takeKey_plain {word : List Char} (allowed : plainAllowed word = true) (rest : List Char) :
    takeKey (word ++ '\n' :: rest) = none := by
  have whole := List.takeWhile_append_dropWhile (p := isKeyChar) (l := word)
  have back : (word ++ '\n' :: rest).drop (word.takeWhile isKeyChar).length =
      word.dropWhile isKeyChar ++ '\n' :: rest := by
    have line := congrArg (· ++ '\n' :: rest) whole
    simp only [List.append_assoc] at line
    rw [← line, List.drop_left]
  rw [takeKey, takeWhile_line (by decide), back]
  cases after : word.dropWhile isKeyChar with
  | nil => rfl
  | cons d tail =>
    by_cases colon : d = ':'
    · subst colon
      cases key : word.takeWhile isKeyChar with
      | nil => simp
      | cons c front =>
        rw [key, after] at whole
        have inside := endsToken_of_plain (whole ▸ allowed)
        cases tail with
        | nil => cases inside
        | cons e tail =>
          have blank : e ≠ ' ' ∧ e ≠ '\n' := by
            constructor <;> rintro rfl <;> cases inside
          simp [blank]
    · simp [colon]

/-- A line with a text begins with nothing that begins a list, a record or a key. -/
theorem scalarLine_apart (indent : Nat) (text : String) (rest : List Char) :
    (∃ c tail, Node.scalarLine indent text ++ rest = c :: tail ∧ c ≠ '[' ∧ c ≠ '\x7b' ∧
      (c = '-' → tail.head? ≠ some ' ')) ∧
    takeKey (Node.scalarLine indent text ++ rest) = none := by
  cases style : styleOf text with
  | plain =>
    obtain ⟨_, free, allowed⟩ := of_styleOf_plain style
    simp only [Node.scalarLine, renderScalar, style, Bool.false_eq_true, ↓reduceIte,
      List.append_assoc, List.singleton_append]
    refine ⟨?_, takeKey_plain allowed rest⟩
    cases word : text.toList with
    | nil =>
      rw [String.toList_eq_nil_iff] at word
      subst word
      exact absurd free (by decide)
    | cons c tail =>
      rw [word] at allowed
      have other := plain_head allowed
      simp only [leadingIndicators, List.mem_cons, not_or] at other
      refine ⟨c, _, rfl, by simp [other], by simp [other], ?_⟩
      rintro rfl blank
      cases tail with
      | nil => exact absurd allowed (by decide)
      | cons d tail =>
        obtain rfl : d = ' ' := Option.some.inj blank
        have marked : hasIndicator ('-' :: ' ' :: tail) = true := by
          simp [hasIndicator, endsToken]
        rw [plainAllowed, marked, Bool.not_true, Bool.and_false] at allowed
        cases allowed
  | singleQuoted =>
    simp only [Node.scalarLine, renderScalar, style, Bool.false_eq_true, ↓reduceIte,
      List.cons_append]
    exact ⟨⟨'\'', _, rfl, by decide, by decide, fun same => absurd same (by decide)⟩, rfl⟩
  | doubleQuoted =>
    simp only [Node.scalarLine, renderScalar, style, Bool.false_eq_true, ↓reduceIte,
      List.cons_append]
    exact ⟨⟨'"', _, rfl, by decide, by decide, fun same => absurd same (by decide)⟩, rfl⟩
  | literal =>
    obtain ⟨tail, line⟩ : ∃ tail, Node.scalarLine indent text ++ rest = '|' :: tail := by
      simp only [Node.scalarLine, renderScalar, style, literalHead]
      split <;> exact ⟨_, rfl⟩
    rw [line]
    exact ⟨⟨'|', tail, rfl, by decide, by decide, fun same => absurd same (by decide)⟩, rfl⟩

theorem readInline_scalarLine (indent : Nat) (text : String) {rest : List Char}
    (stops : Stops indent rest) :
    readInline indent (Node.scalarLine indent text ++ rest) = some (.scalar text, rest) := by
  have read := readScalar_scalarLine indent text stops
  obtain ⟨⟨c, tail, line, bracket, brace, _⟩, _⟩ := scalarLine_apart indent text rest
  rw [line] at read ⊢
  rw [readInline, read]
  · rfl
  · exact fun _ same => bracket (List.cons.inj same).1
  · exact fun _ same => brace (List.cons.inj same).1

open Node in
theorem renderMembers_cons (indent : Nat) (begun : Bool) (key : String) (value : Node)
    (members : List (String × Node)) (rest : List Char) :
    renderMembers indent begun ((key, value) :: members) ++ rest =
      (if begun then [] else spaces indent) ++
        (key.toList ++ ':' ::
          (renderValue indent value ++ (renderMembers indent false members ++ rest))) := by
  rw [renderMembers]
  simp only [List.append_assoc, List.cons_append]

open Node in
theorem renderItems_cons (indent : Nat) (item : Node) (items : List Node) (rest : List Char) :
    renderItems indent (item :: items) ++ rest =
      spaces indent ++ ['-', ' '] ++
        (renderItem indent item ++ (renderItems indent items ++ rest)) := by
  rw [renderItems]
  simp only [List.append_assoc, List.cons_append, List.nil_append]

theorem exists_head_of_isKey {key : String} (word : isKey key = true) :
    ∃ c tail, key.toList = c :: tail ∧ isKeyChar c = true := by
  rw [isKey, Bool.and_eq_true, Bool.not_eq_true'] at word
  cases chars : key.toList with
  | nil =>
    rw [chars] at word
    cases word.1
  | cons c tail =>
    rw [chars, List.all_cons, Bool.and_eq_true] at word
    exact ⟨c, tail, rfl, word.2.1⟩

/-- What follows a colon begins with a blank or on a new line. -/
theorem exists_head_renderValue (indent : Nat) (value : Node) :
    ∃ c tail, Node.renderValue indent value = c :: tail ∧ (c = ' ' ∨ c = '\n') := by
  match value with
  | .scalar _ => exact ⟨' ', _, by rw [Node.renderValue], .inl rfl⟩
  | .list [] => exact ⟨' ', _, by rw [Node.renderValue]; rfl, .inl rfl⟩
  | .list (_ :: _) => exact ⟨'\n', _, by rw [Node.renderValue], .inr rfl⟩
  | .record [] => exact ⟨' ', _, by rw [Node.renderValue]; rfl, .inl rfl⟩
  | .record (_ :: _) => exact ⟨'\n', _, by rw [Node.renderValue], .inr rfl⟩

theorem takeKey_member {key : String} (word : isKey key = true) (indent : Nat) (value : Node)
    (rest : List Char) :
    takeKey (key.toList ++ ':' :: (Node.renderValue indent value ++ rest)) =
      some (key.toList, Node.renderValue indent value ++ rest) := by
  obtain ⟨c, tail, line, ends⟩ := exists_head_renderValue indent value
  rw [line, List.cons_append]
  exact takeKey_key word ends _

theorem resumes_items {indent member : Nat} (items : List Node) {rest : List Char}
    (resumes : Resumes member indent rest) :
    Resumes member (indent + 1) (Node.renderItems indent items ++ rest) := by
  cases items with
  | nil =>
    rw [Node.renderItems]
    exact resumes.mono le_rfl (by omega)
  | cons item items =>
    rw [renderItems_cons, List.append_assoc]
    exact .item _ (by omega)

theorem resumes_members {indent : Nat} {members : List (String × Node)}
    (keyed : Node.haveKeys members = true) {rest : List Char}
    (resumes : Resumes indent indent rest) :
    Resumes (indent + 1) indent (Node.renderMembers indent false members ++ rest) := by
  cases members with
  | nil =>
    rw [Node.renderMembers]
    exact resumes.mono (by omega) le_rfl
  | cons member members =>
    obtain ⟨key, value⟩ := member
    rw [Node.haveKeys, Bool.and_eq_true, Bool.and_eq_true] at keyed
    obtain ⟨c, tail, chars, word⟩ := exists_head_of_isKey keyed.1.1
    rw [renderMembers_cons, chars]
    exact .member _ (by omega) word

/-- No item of a list follows when a line begins that is less indented, or a key. -/
theorem dropPrefix?_item {indent member : Nat} {rest : List Char}
    (resumes : Resumes member indent rest) :
    rest.dropPrefix? (spaces indent ++ ['-', ' ']) = none := by
  refine dropPrefix?_eq_none fun within => ?_
  cases resumes with
  | ends => simp at within
  | member tail less word =>
    obtain ⟨visible, _, other⟩ := visible_of_isKeyChar word
    exact other (spaces_within visible rfl within).2.symm
  | item tail less =>
    have same := (spaces_within (by decide) (by decide) within).1
    omega

theorem le_of_spaces_within {indent other : Nat} {c : Char} {tail : List Char}
    (visible : isSpaceChar c = false) (within : spaces indent <+: spaces other ++ c :: tail) :
    indent ≤ other := by
  by_contra more
  obtain ⟨gap, rfl⟩ : ∃ gap, indent = other + (gap + 1) := ⟨indent - other - 1, by omega⟩
  rw [spaces, spaces, List.replicate_add, List.prefix_append_right_inj] at within
  obtain rfl : ' ' = c := (List.cons_prefix_cons.mp within).1
  cases visible

/-- No member of a record follows when a line begins that is less indented. -/
theorem takeKey_resumes {indent : Nat} {rest : List Char} (resumes : Resumes indent indent rest) :
    (rest.dropPrefix? (spaces indent)).bind takeKey = none := by
  cases resumes with
  | ends => cases indent <;> rfl
  | member tail less word =>
    rw [dropPrefix?_eq_none fun within => ?_, Option.bind_none]
    have := le_of_spaces_within (visible_of_isKeyChar word).1 within
    omega
  | item tail less =>
    rw [dropPrefix?_eq_none fun within => ?_, Option.bind_none]
    have := le_of_spaces_within (by decide) within
    omega

open Node in
/-- With so much fuel whatever is short enough is read as it was written. -/
structure ReadsBack (fuel : Nat) : Prop where
  value {indent : Nat} {value : Node} {rest : List Char} (keyed : value.isKeyed = true)
    (resumes : Resumes (indent + 1) indent rest)
    (short : (renderValue indent value).length < fuel) :
    readValue fuel indent (renderValue indent value ++ rest) = some (value, rest)
  items {indent : Nat} {items : List Node} {rest : List Char} (keyed : areKeyed items = true)
    (resumes : Resumes (indent + 1) indent rest)
    (short : (renderItems indent items).length < fuel) :
    readItems fuel indent (renderItems indent items ++ rest) = some (items, rest)
  item {indent : Nat} {item : Node} {rest : List Char} (keyed : item.isKeyed = true)
    (resumes : Resumes (indent + 1) (indent + 1) rest)
    (short : (renderItem indent item).length + 1 < fuel) :
    readItem fuel indent (renderItem indent item ++ rest) = some (item, rest)
  members {indent : Nat} {begun : Bool} {members : List (String × Node)} {rest : List Char}
    (keyed : haveKeys members = true) (begins : begun = false ∨ members ≠ [])
    (resumes : Resumes indent indent rest)
    (short : (renderMembers indent begun members).length < fuel) :
    readMembers fuel indent begun (renderMembers indent begun members ++ rest) =
      some (members, rest)

namespace ReadsBack

variable {fuel indent : Nat} {rest : List Char}

theorem value_succ (reads : ReadsBack fuel) {value : Node} (keyed : value.isKeyed = true)
    (resumes : Resumes (indent + 1) indent rest)
    (short : (Node.renderValue indent value).length < fuel + 1) :
    readValue (fuel + 1) indent (Node.renderValue indent value ++ rest) = some (value, rest) := by
  have inner := (resumes.mono le_rfl (Nat.le_succ indent)).inner
  match value with
  | .scalar text =>
    rw [Node.renderValue, List.cons_append, readValue]
    exact readInline_scalarLine _ text inner.stops
  | .list [] =>
    rw [Node.renderValue]
    change readValue (fuel + 1) indent (' ' :: '[' :: ']' :: '\n' :: rest) = _
    rw [readValue, readInline]
  | .record [] =>
    rw [Node.renderValue]
    change readValue (fuel + 1) indent (' ' :: '\x7b' :: '\x7d' :: '\n' :: rest) = _
    rw [readValue, readInline]
  | .list (item :: items) =>
    rw [Node.renderValue, List.length_cons] at short
    rw [Node.isKeyed] at keyed
    have first : (spaces indent ++ ['-', ' ']).isPrefixOf
        (Node.renderItems indent (item :: items) ++ rest) = true := by
      rw [renderItems_cons, List.isPrefixOf_iff_prefix]
      exact List.prefix_append _ _
    rw [Node.renderValue, List.cons_append, readValue, if_pos first,
      reads.items keyed resumes (by omega)]
    rfl
  | .record (member :: members) =>
    rw [Node.renderValue, List.length_cons] at short
    rw [Node.isKeyed] at keyed
    -- Members are indented deeper than the key, where items are not.
    have other : ¬ (spaces indent ++ ['-', ' ']).isPrefixOf
        (Node.renderMembers (indent + step) false (member :: members) ++ rest) = true := by
      obtain ⟨key, value⟩ := member
      have word := keyed
      rw [Node.haveKeys, Bool.and_eq_true, Bool.and_eq_true] at word
      obtain ⟨c, tail, chars, head⟩ := exists_head_of_isKey word.1.1
      rw [renderMembers_cons, chars, List.isPrefixOf_iff_prefix]
      exact fun within => (visible_of_isKeyChar head).2.2
        (spaces_within (visible_of_isKeyChar head).1 rfl within).2.symm
    rw [Node.renderValue, List.cons_append, readValue, if_neg other,
      reads.members keyed (.inl rfl) inner (by omega)]
    rfl

theorem items_succ (reads : ReadsBack fuel) {items : List Node} (keyed : Node.areKeyed items = true)
    (resumes : Resumes (indent + 1) indent rest)
    (short : (Node.renderItems indent items).length < fuel + 1) :
    readItems (fuel + 1) indent (Node.renderItems indent items ++ rest) = some (items, rest) := by
  cases items with
  | nil =>
    rw [Node.renderItems, List.nil_append, readItems, dropPrefix?_item resumes]
  | cons item items =>
    rw [Node.areKeyed, Bool.and_eq_true] at keyed
    have size := congrArg List.length (renderItems_cons indent item items [])
    simp only [List.append_nil, List.length_append, List.length_cons, List.length_nil] at size
    have first := reads.item keyed.1 (resumes_items items resumes) (by omega)
    have others := reads.items keyed.2 resumes (by omega)
    rw [renderItems_cons, readItems, dropPrefix?_append]
    simp only [first, others, Option.bind_eq_bind, Option.bind_some, Option.pure_def]

theorem item_succ (reads : ReadsBack fuel) {item : Node} (keyed : item.isKeyed = true)
    (resumes : Resumes (indent + 1) (indent + 1) rest)
    (short : (Node.renderItem indent item).length + 1 < fuel + 1) :
    readItem (fuel + 1) indent (Node.renderItem indent item ++ rest) = some (item, rest) := by
  have inner := resumes.inner
  match item with
  | .scalar text =>
    obtain ⟨⟨c, tail, line, _, _, hyphen⟩, noKey⟩ := scalarLine_apart (indent + step) text rest
    have inline := readInline_scalarLine (indent + step) text inner.stops
    rw [Node.renderItem]
    rw [line] at noKey inline ⊢
    rw [readItem, noKey, inline]
    · rfl
    · intro body same
      obtain ⟨rfl, rfl⟩ := List.cons.inj same
      exact hyphen rfl rfl
  | .list [] =>
    rw [Node.renderItem]
    change readItem (fuel + 1) indent ('[' :: ']' :: '\n' :: rest) = _
    rw [readItem]
    · rfl
    · nofun
  | .record [] =>
    rw [Node.renderItem]
    change readItem (fuel + 1) indent ('\x7b' :: '\x7d' :: '\n' :: rest) = _
    rw [readItem]
    · rfl
    · nofun
  | .list (item :: items) =>
    rw [Node.renderItem] at short ⊢
    rw [Node.isKeyed, Node.areKeyed, Bool.and_eq_true] at keyed
    simp only [List.length_append, List.length_cons] at short
    have after := inner.mono (Nat.le_succ _) le_rfl
    have first := reads.item keyed.1 (resumes_items items after) (by omega)
    have others := reads.items keyed.2 after (by omega)
    simp only [List.cons_append, List.append_assoc]
    rw [readItem]
    simp only [first, others, Option.bind_eq_bind, Option.bind_some, Option.pure_def]
  | .record ((key, value) :: members) =>
    rw [Node.renderItem] at short ⊢
    rw [Node.isKeyed] at keyed
    -- The first key is read twice: it shows that a record begins, and then belongs to it.
    have whole : readMembers fuel (indent + step) true _ = _ :=
      reads.members keyed (.inr nofun) inner (by omega)
    rw [Node.haveKeys, Bool.and_eq_true, Bool.and_eq_true] at keyed
    have word := takeKey_member keyed.1.1 (indent + step) value
      (Node.renderMembers (indent + step) false members ++ rest)
    obtain ⟨c, tail, chars, head⟩ := exists_head_of_isKey keyed.1.1
    rw [renderMembers_cons, if_pos rfl, List.nil_append, chars, List.cons_append] at whole ⊢
    rw [chars, List.cons_append] at word
    rw [readItem, word, Option.isSome_some, if_pos rfl, whole]
    · rfl
    · intro body same
      exact (visible_of_isKeyChar head).2.2 (List.cons.inj same).1

theorem members_succ (reads : ReadsBack fuel) {begun : Bool} {members : List (String × Node)}
    (keyed : Node.haveKeys members = true) (begins : begun = false ∨ members ≠ [])
    (resumes : Resumes indent indent rest)
    (short : (Node.renderMembers indent begun members).length < fuel + 1) :
    readMembers (fuel + 1) indent begun (Node.renderMembers indent begun members ++ rest) =
      some (members, rest) := by
  cases members with
  | nil =>
    obtain rfl := begins.resolve_right fun more => more rfl
    rw [Node.renderMembers, List.nil_append, readMembers, if_neg Bool.false_ne_true,
      takeKey_resumes resumes]
  | cons member members =>
    obtain ⟨key, value⟩ := member
    rw [Node.haveKeys, Bool.and_eq_true, Bool.and_eq_true] at keyed
    have size := congrArg List.length (renderMembers_cons indent begun key value members [])
    simp only [List.append_nil, List.length_append, List.length_cons] at size
    have first := reads.value keyed.1.2 (resumes_members keyed.2 resumes) (by omega)
    have others := reads.members keyed.2 (.inl rfl) resumes (by omega)
    rw [renderMembers_cons, readMembers, dropPrefix?_append, Option.bind_some,
      takeKey_member keyed.1.1]
    simp only [first, others, Option.bind_eq_bind, Option.bind_some, String.ofList_toList,
      Option.pure_def]

end ReadsBack

theorem readsBack (fuel : Nat) : ReadsBack fuel := by
  induction fuel with
  | zero => exact ⟨fun _ _ => nofun, fun _ _ => nofun, fun _ _ => nofun, fun _ _ _ => nofun⟩
  | succ fuel ih => exact ⟨ih.value_succ, ih.items_succ, ih.item_succ, ih.members_succ⟩

/-- A document is read as it was written. -/
theorem readRecord?_render {members : List (String × Node)} (nonempty : members ≠ [])
    (keyed : Node.haveKeys members = true) :
    readRecord? (Node.record members).render = some members := by
  have text : (Node.record members).render.toList = Node.renderMembers 0 false members := by
    rw [Node.render, List.isEmpty_eq_false_iff.mpr nonempty, if_neg Bool.false_ne_true,
      String.toList_ofList]
  have read := (readsBack ((Node.record members).render.length + 1)).members keyed (.inl rfl)
    (.ends : Resumes 0 0 []) (by rw [← text, String.length_toList]; omega)
  rw [List.append_nil, ← text] at read
  rw [readRecord?, read]

end CoreWatch.Yaml
