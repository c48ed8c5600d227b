import CoreWatch.Digits

set_option autoImplicit false

namespace CoreWatch.Config.Toml

abbrev Reader (α : Type) := List Char → Option (α × List Char)

structure Quoting where
  quote : Char
  /-- Whether three quotes stand at either end. -/
  tripled : Bool

namespace Quoting

def escapes (quoting : Quoting) : Bool :=
  quoting.quote = '"'

def width (quoting : Quoting) : Nat :=
  if quoting.tripled then 3 else 1

/--
The characters up to the closing quotes, escapes left as they are. Up to two quotes more than the
closing ones belong to a text in tripled quotes.
-/
def untilClosed (quoting : Quoting) : Reader (List Char)
  | [] => none
  | c :: rest =>
    let quotes := ((c :: rest).takeWhile (· = quoting.quote)).length
    if quoting.width ≤ quotes then
      let extra := if quoting.tripled then min (quotes - 3) 2 else 0
      some (List.replicate extra quoting.quote, (c :: rest).drop (quoting.width + extra))
    else if quoting.escapes && c = '\\' then
      match rest with
      | [] => none
      | e :: rest => (quoting.untilClosed rest).map fun (raw, after) => (c :: e :: raw, after)
    else (quoting.untilClosed rest).map fun (raw, after) => (c :: raw, after)

def allows (quoting : Quoting) (c : Char) : Bool :=
  c = '\t' || (quoting.tripled && c = '\n') || (32 ≤ c.toNat && c.toNat ≠ 127)

end Quoting

/-- What stands before the next character when escapes are resolved. -/
inductive Margin
  | none
  /-- A backslash and only spaces after it, so that the line must end here. -/
  | beforeEnd
  /-- Space and line ends that a backslash at the end of a line takes away. -/
  | afterEnd

def unescape (tripled : Bool) : Margin → List Char → Option (List Char)
  | .beforeEnd, '\n' :: rest => unescape tripled .afterEnd rest
  | .beforeEnd, c :: rest =>
    if c = ' ' || c = '\t' then unescape tripled .beforeEnd rest else none
  | .beforeEnd, [] => none
  | _, [] => some []
  | margin, c :: rest =>
    let isSpace := c = ' ' || c = '\t' || c = '\n'
    match margin, isSpace with
    | .afterEnd, true => unescape tripled .afterEnd rest
    | _, _ =>
      if c = '\\' then
        match rest with
        | 'b' :: rest => ('\x08' :: ·) <$> unescape tripled .none rest
        | 't' :: rest => ('\t' :: ·) <$> unescape tripled .none rest
        | 'n' :: rest => ('\n' :: ·) <$> unescape tripled .none rest
        | 'f' :: rest => ('\x0c' :: ·) <$> unescape tripled .none rest
        | 'r' :: rest => ('\r' :: ·) <$> unescape tripled .none rest
        | '"' :: rest => ('"' :: ·) <$> unescape tripled .none rest
        | '\\' :: rest => ('\\' :: ·) <$> unescape tripled .none rest
        | 'u' :: h₁ :: h₂ :: h₃ :: h₄ :: rest =>
          (Digits.char? [h₁, h₂, h₃, h₄]).bind fun c => (c :: ·) <$> unescape tripled .none rest
        | 'U' :: h₁ :: h₂ :: h₃ :: h₄ :: h₅ :: h₆ :: h₇ :: h₈ :: rest =>
          (Digits.char? [h₁, h₂, h₃, h₄, h₅, h₆, h₇, h₈]).bind fun c =>
            (c :: ·) <$> unescape tripled .none rest
        | '\n' :: rest => if tripled then unescape tripled .afterEnd rest else none
        | c :: rest =>
          if tripled && (c = ' ' || c = '\t') then unescape tripled .beforeEnd rest else none
        | [] => none
      else (c :: ·) <$> unescape tripled .none rest

def readAfterQuotes (quoting : Quoting) (text : List Char) : Option (String × List Char) := do
  let (raw, after) ← quoting.untilClosed text
  if !raw.all quoting.allows then none
  else
    let value ← if quoting.escapes then unescape quoting.tripled .none raw else some raw
    return (String.ofList value, after)

/-- Reads a text in single quotes or double ones, each once at either end. -/
def readQuoted : Reader String
  | '"' :: rest => readAfterQuotes ⟨'"', false⟩ rest
  | '\'' :: rest => readAfterQuotes ⟨'\'', false⟩ rest
  | _ => none

/-- Reads a text in quotes of any kind. A line end right after tripled quotes does not count. -/
def readText (text : List Char) : Option (String × List Char) :=
  match text with
  | quote :: second :: third :: rest =>
    if (quote = '"' || quote = '\'') && second = quote && third = quote then
      readAfterQuotes ⟨quote, true⟩ (if rest.head? = some '\n' then rest.drop 1 else rest)
    else readQuoted text
  | _ => readQuoted text

end CoreWatch.Config.Toml
