import CoreWatch.Digits
import CoreWatch.Yaml.Place
import CoreWatch.Yaml.Token

set_option autoImplicit false

namespace CoreWatch.Yaml

def isTagTextChar (c : Char) : Bool :=
  c.isAlphanum || "-#;/?:@&=+$,_.!~*'()[]%".toList.contains c

def isTagChar (c : Char) : Bool :=
  isTagTextChar c && !isFlowMark c && c != '!'

private def byteOf? (high low : Char) : Option Nat :=
  Digits.read? 16 [high, low]

/--
Reads the character that bytes in hexadecimal stand for: one byte by itself, or two that have the
bits of a character of two bytes and give its number together.
-/
def readTagEscape? : List Char → Option (Char × List Char)
  | '%' :: h₁ :: l₁ :: rest =>
    (byteOf? h₁ l₁).bind fun first =>
      if first < 0x80 then some (Char.ofNat first, rest)
      else if 0xC0 ≤ first && first < 0xE0 then
        match rest with
        | '%' :: h₂ :: l₂ :: rest =>
          (byteOf? h₂ l₂).bind fun second =>
            let code := first * 0x100 + second
            if 0x80 ≤ second && second < 0xC0 && code.isValidChar then
              some (Char.ofNat code, rest)
            else none
        | _ => none
      else none
  | _ => none

/-- Reads a run of characters of which a percent sign begins an escape. -/
def readTagRun (allowed : Char → Bool) : (fuel : Nat) → List Char → Option (List Char × List Char)
  | 0, text => some ([], text)
  | _, [] => some ([], [])
  | fuel + 1, c :: rest =>
    if !allowed c then some ([], c :: rest)
    else
      let first? := if c = '%' then readTagEscape? (c :: rest) else some (c, rest)
      first?.bind fun (first, rest) =>
        (readTagRun allowed fuel rest).map fun (run, rest) => (first :: run, rest)

/-- Reads a handle: an exclamation mark, a name that may be empty, and often a second mark. -/
def readHandle? : List Char → Option (List Char × List Char)
  | '!' :: rest =>
    let name := rest.takeWhile isNameChar
    match rest.drop name.length with
    | '!' :: after => some ('!' :: name ++ ['!'], after)
    | after => some ('!' :: name, after)
  | _ => none

def isClosedHandle (handle : List Char) : Bool :=
  2 ≤ handle.length && handle.getLast? == some '!'

def readTag? (text : List Char) : Option (Token × List Char) :=
  let token (handle suffix : List Char) : Token :=
    .tag (String.ofList handle) (String.ofList suffix)
  match text with
  | '!' :: '<' :: rest =>
    (readTagRun isTagTextChar rest.length rest).bind fun (suffix, rest) =>
      match rest with
      | '>' :: rest => some (token [] suffix, rest)
      | _ => none
  | _ =>
    (readHandle? text).bind fun (handle, rest) =>
      (readTagRun isTagChar rest.length rest).bind fun (run, rest) =>
        if isClosedHandle handle then
          if run.isEmpty then none else some (token handle run, rest)
        else
          let suffix := handle.drop 1 ++ run
          some (if suffix.isEmpty then token [] ['!'] else token ['!'] suffix, rest)

/-- Reads a tag and requires that nothing else is joined to it. -/
def takeTag (inFlow : Bool) (place : Place) : Option (Token × Place) :=
  (readTag? place.rest).bind fun (token, rest) =>
    if isApart rest || (inFlow && rest.head?.any isFlowMark) then some (token, place.reach rest)
    else none

private def isAnchorChar (c : Char) : Bool :=
  !isBlank c && c != '\n' && c != '\uFEFF' && !isFlowMark c

def takeAnchorName (place : Place) : Option (String × Place) :=
  let name := place.rest.takeWhile isAnchorChar
  if name.isEmpty then none else some (String.ofList name, place.skip name.length)

private def skipNumber (text : List Char) : Option (List Char) :=
  let digits := text.takeWhile Char.isDigit
  if digits.isEmpty || 9 < digits.length then none else some (text.drop digits.length)

private def readVersion? (text : List Char) : Option (Token × List Char) :=
  match skipNumber text with
  | some ('.' :: rest) => (skipNumber rest).map fun rest => (.version, rest)
  | _ => none

private def readMeaning? : List Char → Option (List Char × List Char)
  | [] => none
  | c :: rest =>
    if c = '!' then
      (readTagRun isTagTextChar rest.length rest).map fun (run, rest) => (c :: run, rest)
    else if isTagChar c then readTagRun isTagTextChar (rest.length + 1) (c :: rest)
    else none

private def readHandleRule? (text : List Char) : Option (Token × List Char) := do
  let (handle, rest) ← readHandle? text
  if handle.length ≠ 1 && !isClosedHandle handle then none
  else
    let (meaning, rest) ← readMeaning? (rest.dropWhile isBlank)
    if isApart rest then
      return (.handle (String.ofList handle) (String.ofList meaning), rest)
    else none

/-- Reads a line with a percent sign in front; of one with an unknown name nothing is known. -/
def takeDirective (place : Place) : Option (Token × Place) := do
  let text := place.rest.drop 1
  let name := text.takeWhile isNameChar
  let rest := text.drop name.length
  if name.isEmpty || !isApart rest then none
  else
    let body := rest.dropWhile isBlank
    let (token, rest) ← match String.ofList name with
      | "YAML" => readVersion? body
      | "TAG" => readHandleRule? body
      | _ => some (.handle "" "", rest.dropWhile (· != '\n'))
    let after ← (place.reach rest).skipBlanks
    if after.atLineEnd then return (token, after.next) else none

end CoreWatch.Yaml
