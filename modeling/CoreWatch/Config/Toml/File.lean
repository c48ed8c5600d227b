import CoreWatch.Config.Toml.Quoted
import CoreWatch.Config.Toml.Table
import CoreWatch.Config.Toml.Word

set_option autoImplicit false

namespace CoreWatch.Config.Toml

def isGap (c : Char) : Bool :=
  c = ' ' || c = '\t'

def skipGap (text : List Char) : List Char :=
  text.dropWhile isGap

/-- A text in which each line ends with a single character. -/
def unifyLineEnds : List Char → List Char
  | '\r' :: '\n' :: rest => '\n' :: unifyLineEnds rest
  | c :: rest => c :: unifyLineEnds rest
  | [] => []

/-- Passes over the rest of a line, on which only a comment may stand. -/
def endLine (text : List Char) : Option (List Char) :=
  match skipGap text with
  | [] => some []
  | '\n' :: rest => some rest
  | '#' :: rest =>
    let comment := rest.takeWhile (· != '\n')
    if comment.all fun c => c = '\t' || (32 ≤ c.toNat && c.toNat ≠ 127) then
      some (rest.drop (comment.length + 1))
    else none
  | _ => none

def skipLines : (fuel : Nat) → List Char → List Char
  | 0, text => text
  | fuel + 1, text =>
    match skipGap text with
    | [] => []
    | c :: rest =>
      match endLine (c :: rest) with
      | some after => skipLines fuel after
      | none => c :: rest

private def isBareKey (c : Char) : Bool :=
  c.isAlphanum || c = '_' || c = '-'

def readKeyPart (text : List Char) : Option (String × List Char) :=
  let key := text.takeWhile isBareKey
  if key.isEmpty then readQuoted text else some (String.ofList key, text.drop key.length)

def readKey : (fuel : Nat) → Reader (List String)
  | 0, _ => none
  | fuel + 1, text =>
    (readKeyPart (skipGap text)).bind fun (part, rest) =>
      match skipGap rest with
      | '.' :: rest => (readKey fuel rest).map fun (parts, rest) => (part :: parts, rest)
      | rest => some ([part], rest)

mutual

def readValue : (fuel : Nat) → Reader Setting
  | 0, _ => none
  | fuel + 1, text =>
    match text with
    | '[' :: rest => (readItems fuel rest).map fun rest => (.compound, rest)
    | '\x7b' :: rest =>
      match skipGap rest with
      | '\x7d' :: rest => some (.compound, rest)
      | rest => (readInline fuel [] rest).map fun rest => (.compound, rest)
    | _ =>
      match readText text with
      | some (value, rest) => some (.text value, rest)
      | none => readWord text

/-- Reads the items of a list up to and including its bracket. -/
def readItems : (fuel : Nat) → List Char → Option (List Char)
  | 0, _ => none
  | fuel + 1, text =>
    match skipLines text.length text with
    | ']' :: rest => some rest
    | text =>
      match readValue fuel text with
      | none => none
      | some (_, rest) =>
        match skipLines rest.length rest with
        | ',' :: rest => readItems fuel rest
        | ']' :: rest => some rest
        | _ => none

/-- Reads the members of a table that stands on one line, up to and including its brace. -/
def readInline : (fuel : Nat) → Members → List Char → Option (List Char)
  | 0, _, _ => none
  | fuel + 1, members, text =>
    match readKey text.length text with
    | some (key, '=' :: rest) =>
      match readValue fuel (skipGap rest) with
      | none => none
      | some (value, rest) =>
        match members.assign value key with
        | none => none
        | some members =>
          match skipGap rest with
          | ',' :: rest => readInline fuel members rest
          | '\x7d' :: rest => some rest
          | _ => none
    | _ => none

end

/-- Reads the head of a table after its first bracket; whether it opens one more of a list. -/
def readHead (text : List Char) : Option (Bool × List String × List Char) := do
  let (isItem, body) := match text with
    | '[' :: rest => (true, rest)
    | _ => (false, text)
  let (path, rest) ← readKey body.length body
  match isItem, rest with
  | false, ']' :: rest => return (false, path, ← endLine rest)
  | true, ']' :: ']' :: rest => return (true, path, ← endLine rest)
  | _, _ => none

/-- Reads what makes one entry: a head, which moves on to its table, or a key with a value. -/
def readEntry (members : Members) (place : List String) :
    List Char → Option (Members × List String × List Char)
  | '[' :: rest => do
    let (isItem, path, rest) ← readHead rest
    let members ← if isItem then members.openItem path else members.openTable path
    return (members, path, rest)
  | text => do
    let (key, rest) ← readKey text.length text
    match rest with
    | '=' :: rest =>
      let (value, rest) ← readValue rest.length (skipGap rest)
      return (← members.assignAt value key place, place, ← endLine rest)
    | _ => none

def readEntries : (fuel : Nat) → Members → (place : List String) → List Char → Option Members
  | 0, _, _, _ => none
  | fuel + 1, members, place, text =>
    match skipLines text.length text with
    | [] => some members
    | text =>
      match readEntry members place text with
      | some (members, place, rest) => readEntries fuel members place rest
      | none => none

def read? (text : List Char) : Option Settings :=
  let text := unifyLineEnds text
  (readEntries (text.length + 1) [] [] text).map Members.settings

end CoreWatch.Config.Toml
