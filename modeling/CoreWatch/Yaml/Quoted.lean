import CoreWatch.Digits
import CoreWatch.Yaml.Gap

set_option autoImplicit false

namespace CoreWatch.Yaml.Quoted

private def shortEscape? : Char → Option Char
  | '0' => some '\x00'
  | 'a' => some '\x07'
  | 'b' => some '\x08'
  | 't' => some '\t'
  | '\t' => some '\t'
  | 'n' => some '\n'
  | 'v' => some '\x0b'
  | 'f' => some '\x0c'
  | 'r' => some '\r'
  | 'e' => some '\x1b'
  | ' ' => some ' '
  | '"' => some '"'
  | '/' => some '/'
  | '\\' => some '\\'
  | 'N' => some '\x85'
  | '_' => some '\xa0'
  | 'L' => some '\u2028'
  | 'P' => some '\u2029'
  | _ => none

/-- The number of hexadecimal digits after a letter that begins a number. -/
private def numberWidth : Char → Nat
  | 'x' => 2
  | 'u' => 4
  | 'U' => 8
  | _ => 0

/-- Reads an escape after its backslash, and counts the characters that it takes up. -/
def readEscape? : List Char → Option (Char × Nat)
  | [] => none
  | c :: rest =>
    match numberWidth c with
    | 0 => (shortEscape? c).map fun value => (value, 1)
    | width =>
      let digits := rest.take width
      if digits.length < width then none
      else (Digits.char? digits).map fun value => (value, width + 1)

/-- A run of characters up to a blank, the end of the line or the closing quote. -/
structure Run where
  text : List Char
  /-- Whether it ends with the end of a line that is escaped. -/
  isEscaped : Bool
  /-- The number of characters in which it is written. -/
  width : Nat

def readRun (quote : Char) : (fuel : Nat) → List Char → Option Run
  | 0, _ => some ⟨[], false, 0⟩
  | _, [] => some ⟨[], false, 0⟩
  | fuel + 1, c :: rest =>
    let goOn (value : Char) (more : Nat) : Option Run :=
      (readRun quote fuel (rest.drop more)).map fun run =>
        { run with text := value :: run.text, width := run.width + more + 1 }
    if isBlank c || c = '\n' then some ⟨[], false, 0⟩
    else if c = quote then
      if quote = '\'' && rest.head? = some '\'' then goOn '\'' 1 else some ⟨[], false, 0⟩
    else if quote = '"' && c = '\\' then
      if rest.head? = some '\n' then some ⟨[], true, 2⟩
      else (readEscape? rest).bind fun (value, width) => goOn value width
    else goOn c 0

/-- Reads a text after its first quote, up to the last one. Its lines are indented to a column. -/
def readBody (quote : Char) (indent : Int) : (fuel : Nat) → Place → Option (List Char × Place)
  | 0, _ => none
  | fuel + 1, place =>
    if place.atDocumentMark || place.rest.isEmpty || place.column < indent then none
    else do
      let run ← readRun quote fuel place.rest
      let after := place.skip run.width
      if after.isAt quote then return (run.text, after.next)
      else
        let (gap, next) ← Gap.read indent (fun _ => none) fuel ⟨[], 0, run.isEscaped⟩ after
        let (more, last) ← readBody quote indent fuel next
        return (run.text ++ gap.text ++ more, last)

/-- Whether what follows a text can follow one that began on this line. -/
private def endsWell (inFlow : Bool) (line : Nat) (place : Place) : Bool :=
  match place.rest with
  | [] => true
  | c :: _ =>
    c = '\n' || (c = ':' && (inFlow || place.line = line)) ||
      (inFlow && (c = ',' || c = ']' || c = '\x7d'))

def read (inFlow : Bool) (indent : Int) (quote : Char) (place : Place) :
    Option (List Char × Place) := do
  let (text, last) ← readBody quote indent (place.rest.length + 1) place.next
  let after ← last.skipBlanks
  if endsWell inFlow place.line after then return (text, after) else none

end CoreWatch.Yaml.Quoted
