import CoreWatch.Exposition.Basic
import CoreWatch.Text.Bytes

set_option autoImplicit false

namespace CoreWatch.Exposition

open Text

inductive LabelFault
  | invalidName
  | missingEquals
  | unquotedValue
  | unterminatedValue
  | missingComma
deriving DecidableEq, Repr

namespace LabelFault

def message : LabelFault → String
  | invalidName => "invalid label name"
  | missingEquals => "expected '=' after label name"
  | unquotedValue => "label value must be quoted"
  | unterminatedValue => "unterminated label value"
  | missingComma => "expected ',' between labels"

end LabelFault

/-- A fault, and the text from the token where it lies. -/
structure Unread where
  fault : LabelFault
  text : List Char

/-- The character that a backslash and a character stand for; other pairs stand for themselves. -/
def unescapeValue (c : Char) : List Char :=
  if c = 'n' then ['\n'] else if c = '"' || c = '\\' then [c] else ['\\', c]

/-- Reads a label value after its opening quote, up to and including its closing quote. -/
def readValue? : List Char → Option (List Char × List Char)
  | [] => none
  | '"' :: rest => some ([], rest)
  | '\\' :: c :: rest =>
    (readValue? rest).map fun (value, rest) => (unescapeValue c ++ value, rest)
  | c :: rest =>
    if c = '\\' then none else (readValue? rest).map fun (value, rest) => (c :: value, rest)

/-- Whether a character can stand inside a label name as far as its end is concerned. -/
def continuesName (c : Char) : Bool :=
  c != '=' && !isBlank c

/-- Reads one pair from the first character of its name. -/
def readLabel (text : List Char) : Except Unread (Label × List Char) :=
  let name := text.takeWhile continuesName
  if !isLabelName name then .error ⟨.invalidName, text⟩
  else
    match trimLeft (text.dropWhile continuesName) with
    | '=' :: rest =>
      match trimLeft rest with
      | '"' :: body =>
        match readValue? body with
        | some (value, rest) => .ok (⟨String.ofList name, String.ofList value⟩, rest)
        | none => .error ⟨.unterminatedValue, '"' :: body⟩
      | other => .error ⟨.unquotedValue, other⟩
    | _ => .error ⟨.missingEquals, text⟩

theorem length_readValue? {text value rest : List Char}
    (h : readValue? text = some (value, rest)) : rest.length < text.length := by
  fun_induction readValue? text generalizing value rest with
  | case1 => simp at h
  | case2 tail => simp_all
  | case3 c tail ih =>
    obtain ⟨⟨inner, left⟩, found, eq⟩ := Option.map_eq_some_iff.mp h
    cases eq
    have := ih found
    simp only [List.length_cons]
    omega
  | case4 => simp at h
  | case5 c tail _ _ _ ih =>
    obtain ⟨⟨inner, left⟩, found, eq⟩ := Option.map_eq_some_iff.mp h
    cases eq
    have := ih found
    simp only [List.length_cons]
    omega

theorem length_readLabel {text rest : List Char} {label : Label}
    (h : readLabel text = .ok (label, rest)) : rest.length < text.length := by
  simp only [readLabel] at h
  split at h
  · simp at h
  split at h
  · rename_i afterEquals eqEquals
    split at h
    · rename_i body eqQuote
      split at h
      · rename_i value left found
        cases h
        have scanned := length_readValue? found
        have quote := length_trimLeft_le afterEquals
        have equals := length_trimLeft_le (text.dropWhile continuesName)
        have dropped := (List.dropWhile_sublist (l := text) continuesName).length_le
        simp only [eqQuote, eqEquals, List.length_cons] at quote equals
        omega
      · simp at h
    · simp at h
  · simp at h

def readLabels (text : List Char) : Except Unread (List Label) :=
  if (trimLeft text).isEmpty then .ok []
  else
    match _found : readLabel (trimLeft text) with
    | .error unread => .error unread
    | .ok (label, rest) =>
      match _after : trimLeft rest with
      | [] => .ok [label]
      | ',' :: more => (readLabels more).map (label :: ·)
      | other => .error ⟨.missingComma, other⟩
termination_by text.length
decreasing_by
  have read := length_readLabel _found
  have start := length_trimLeft_le text
  have blanks := length_trimLeft_le rest
  simp only [_after, List.length_cons] at blanks
  omega

/-- A fault in a label set, with its place in bytes from the start of the text. -/
structure MalformedLabel where
  position : Nat
  fault : LabelFault
deriving DecidableEq, Repr

namespace MalformedLabel

def message (malformed : MalformedLabel) : String :=
  s!"malformed label at byte {malformed.position}: {malformed.fault.message}"

end MalformedLabel

namespace LabelSet

/-- Reads the text between the braces of a label set. -/
def read (text : List Char) : Except MalformedLabel LabelSet :=
  match readLabels text with
  | .ok labels => .ok (ofLabels labels)
  | .error unread => .error ⟨byteLength text - byteLength unread.text, unread.fault⟩

end LabelSet

/-- Writes a character of a label value so that it neither ends the value nor the line. -/
def escapeValueChar (c : Char) : List Char :=
  if c = '\\' then ['\\', '\\']
  else if c = '"' then ['\\', '"']
  else if c = '\n' then ['\\', 'n']
  else [c]

namespace Label

def render (label : Label) : List Char :=
  label.name.toList ++ '=' :: '"' :: label.value.toList.flatMap escapeValueChar ++ ['"']

end Label

def renderLabels (labels : List Label) : List Char :=
  [','].intercalate (labels.map Label.render)

namespace LabelSet

/-- Writes the text between the braces of a label set. -/
def render (labels : LabelSet) : String :=
  String.ofList (renderLabels labels.toLabels)

end LabelSet
end CoreWatch.Exposition
