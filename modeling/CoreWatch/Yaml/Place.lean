set_option autoImplicit false

namespace CoreWatch.Yaml

/-- The rest of a text, and where it begins. -/
structure Place where
  rest : List Char
  /-- The number of characters before this place. -/
  index : Nat
  line : Nat
  column : Nat
  /-- Whether only blanks stand before this place on its line. -/
  inMargin : Bool

/-- A text in which one character ends each line; a zero character ends the text. -/
def textLines : List Char → List Char
  | [] => []
  | '\x00' :: _ => []
  | '\r' :: '\n' :: rest => '\n' :: textLines rest
  | '\r' :: rest => '\n' :: textLines rest
  | c :: rest => c :: textLines rest

def isBlank (c : Char) : Bool :=
  c = ' ' || c = '\t'

def isFlowMark (c : Char) : Bool :=
  ",[]\x7b\x7d".toList.contains c

def isNameChar (c : Char) : Bool :=
  c.isAlphanum || c = '_' || c = '-'

/-- Whether a blank, the end of a line or the end of the text is next. -/
def isApart (rest : List Char) : Bool :=
  rest.head?.all fun c => isBlank c || c = '\n'

namespace Place

def start (text : List Char) : Place :=
  ⟨textLines text, 0, 0, 0, true⟩

def isAt (place : Place) (c : Char) : Bool :=
  place.rest.head? == some c

def atLineEnd (place : Place) : Bool :=
  place.rest.head?.all (· = '\n')

def next (place : Place) : Place :=
  match place.rest with
  | [] => place
  | c :: rest =>
    if c = '\n' then ⟨rest, place.index + 1, place.line + 1, 0, true⟩
    else ⟨rest, place.index + 1, place.line, place.column + 1, place.inMargin && isBlank c⟩

def skip (place : Place) : Nat → Place
  | 0 => place
  | n + 1 => place.next.skip n

def skipWhile (place : Place) (p : Char → Bool) : Place :=
  place.skip (place.rest.takeWhile p).length

/-- The place before the rest of a text, of which it is the end. -/
def reach (place : Place) (rest : List Char) : Place :=
  place.skip (place.rest.length - rest.length)

def lineEnd (place : Place) : Place :=
  place.skipWhile (· != '\n')

/-- Whether a line begins with a mark that stands apart. -/
def isAtMark (place : Place) (mark : List Char) : Bool :=
  place.column = 0 && mark.isPrefixOf place.rest && isApart (place.rest.drop mark.length)

def atDocumentStart (place : Place) : Bool :=
  place.isAtMark ['-', '-', '-']

def atDocumentEnd (place : Place) : Bool :=
  place.isAtMark ['.', '.', '.']

/-- Whether a line begins that no text goes on with. -/
def atDocumentMark (place : Place) : Bool :=
  place.atDocumentStart || place.atDocumentEnd

/-- Passes over blanks, and over a comment if a blank is before it. -/
def skipBlanks (place : Place) : Option Place :=
  let after := place.skipWhile isBlank
  if after.isAt '#' then if place.isAt '#' then none else some after.lineEnd else some after

/--
Passes over blanks, line ends and comments to the next token. On a line with a token, no tab stands
before the column that a level is indented to.
-/
def skipGap (indent : Int) : (fuel : Nat) → Place → Option Place
  | 0, place => some place
  | fuel + 1, place =>
    match place.rest with
    | [] => some place
    | c :: _ =>
      if c = '#' then skipGap indent fuel place.lineEnd
      else if c = '\t' && place.inMargin && place.column < indent then
        match place.skipBlanks with
        | some after => if after.atLineEnd then skipGap indent fuel after else none
        | none => none
      else if isBlank c || c = '\n' then skipGap indent fuel place.next
      else some place

/-- Passes over spaces, line ends and comments; at least one space or line end stands there. -/
def skipSpaces (place : Place) : Option Place :=
  if place.isAt ' ' || place.isAt '\n' then
    (pass place.rest.length place)
  else none
where
  pass : (fuel : Nat) → Place → Option Place
    | 0, place => some place
    | fuel + 1, place =>
      match place.rest with
      | ' ' :: _ => pass fuel place.next
      | '\n' :: _ => pass fuel place.next
      | '#' :: _ => pass fuel place.lineEnd
      | '\t' :: _ => none
      | _ => some place

end Place
end CoreWatch.Yaml
