import CoreWatch.Yaml.Place

set_option autoImplicit false

namespace CoreWatch.Yaml.Block

/-- What becomes of the line ends after the last line that is not empty. -/
inductive Chomping
  | strip
  /-- One of them stays. -/
  | clip
  | keep
deriving DecidableEq

structure Head where
  chomping : Chomping
  /-- By how much the lines are indented, if it does not show in the first one. -/
  extra : Option Nat

private def chomping? : Char → Option Chomping
  | '+' => some .keep
  | '-' => some .strip
  | _ => none

/-- Reads the digit of an indentation, which is not zero. -/
private def takeExtra (place : Place) : Option (Option Nat × Place) :=
  match place.rest with
  | c :: _ =>
    if c = '0' then none
    else if c.isDigit then some (some (c.toNat - '0'.toNat), place.next)
    else some (none, place)
  | [] => some (none, place)

private def takeChomping (place : Place) : Option Chomping × Place :=
  match place.rest.head?.bind chomping? with
  | some chomping => (some chomping, place.next)
  | none => (none, place)

/-- Reads the marks, which stand in either order, up to the end of their line. -/
def takeHead (place : Place) : Option (Head × Place) := do
  let (before, place) := takeChomping place
  let (extra, place) ← takeExtra place
  let (after, place) :=
    if before.isNone && extra.isSome then takeChomping place else (none, place)
  let place ← place.skipBlanks
  if place.atLineEnd then return (⟨(before.or after).getD .clip, extra⟩, place) else none

/-- Passes over empty lines, and over the indentation of the line after them. -/
def skipIndent (indent : Nat) : (fuel : Nat) → (breaks : Nat) → Place → Nat × Place
  | 0, breaks, place => (breaks, place)
  | fuel + 1, breaks, place =>
    match place.rest with
    | '\n' :: _ => skipIndent indent fuel (breaks + 1) place.next
    | ' ' :: _ =>
      if place.column < indent then skipIndent indent fuel breaks place.next else (breaks, place)
    | _ => (breaks, place)

/-- Passes over lines of spaces only, and over the spaces after them; the widest of all counts. -/
def skipWidest : (fuel : Nat) → (widest breaks : Nat) → Place → Nat × Nat × Place
  | 0, widest, breaks, place => (max widest place.column, breaks, place)
  | fuel + 1, widest, breaks, place =>
    match place.rest with
    | ' ' :: _ => skipWidest fuel widest breaks place.next
    | '\n' :: _ => skipWidest fuel (max widest place.column) (breaks + 1) place.next
    | _ => (max widest place.column, breaks, place)

structure Lines where
  /-- Whether the line before has ended. -/
  isEnded : Bool
  /-- The empty lines since then. -/
  breaks : Nat
  /-- Whether the line before begins with a blank. -/
  beginsBlank : Bool
  place : Place

def readLines (isFolded : Bool) (indent : Nat) : (fuel : Nat) → Lines → List Char × Lines
  | 0, lines => ([], lines)
  | fuel + 1, lines =>
    let place := lines.place
    if place.column ≠ indent || place.rest.isEmpty || place.atDocumentEnd then ([], lines)
    else
      let beginsBlank := place.rest.head?.any isBlank
      let empty := List.replicate lines.breaks '\n'
      let joint :=
        if isFolded && lines.isEnded && !lines.beginsBlank && !beginsBlank then
          if lines.breaks = 0 then [' '] else empty
        else if lines.isEnded then '\n' :: empty else empty
      let line := place.rest.takeWhile (· != '\n')
      let after := place.skip line.length
      if after.rest.isEmpty then (joint ++ line, ⟨false, 0, beginsBlank, after⟩)
      else
        let (breaks, next) := skipIndent indent fuel 0 after.next
        let (more, last) := readLines isFolded indent fuel ⟨true, breaks, beginsBlank, next⟩
        (joint ++ line ++ more, last)

def ending (chomping : Chomping) (indent : Nat) (lines : Lines) : List Char :=
  let isOpen := lines.place.rest.isEmpty && max indent 1 ≤ lines.place.column
  let lineEnds :=
    if chomping = .strip then []
    else (if lines.isEnded then ['\n'] else []) ++ (if isOpen then ['\n'] else [])
  let empty := if chomping = .keep then List.replicate lines.breaks '\n' else []
  lineEnds ++ empty

def emptyText (chomping : Chomping) (onHead : Bool) (breaks : Nat) : List Char :=
  if chomping = .strip || onHead then []
  else List.replicate (if chomping = .keep then max breaks 1 else 1) '\n'

/-- Reads a text after its first mark, inside a level that is indented to a column. -/
def read (isFolded : Bool) (outer : Int) (place : Place) : Option (List Char × Place) := do
  let (head, headEnd) ← takeHead place
  let start := headEnd.next
  if start.isAt '\t' then none
  else
    let fuel := start.rest.length
    let (indent, breaks, place) :=
      match head.extra with
      | some extra =>
        let indent := (max outer 0).toNat + extra
        (indent, skipIndent indent fuel 0 start)
      | none =>
        let (widest, found) := skipWidest fuel 0 0 start
        (max widest (outer + 1).toNat, found)
    if place.rest.isEmpty then
      return (emptyText head.chomping (place.line = headEnd.line) breaks, place)
    else if place.column < indent && outer < place.column then none
    else
      let (text, lines) := readLines isFolded indent (fuel + 1) ⟨false, breaks, false, place⟩
      return (text ++ ending head.chomping indent lines, lines.place)

end CoreWatch.Yaml.Block
