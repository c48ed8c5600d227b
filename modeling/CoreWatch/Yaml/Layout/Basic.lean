import CoreWatch.Yaml.Level
import CoreWatch.Yaml.Place
import CoreWatch.Yaml.Token

set_option autoImplicit false

namespace CoreWatch.Yaml

/-- A token that is a key if a colon comes. -/
structure KeyMark where
  /-- The number of tokens before it. -/
  before : Nat
  /-- Whether it can be nothing else. -/
  isRequired : Bool
  index : Nat
  line : Nat
  column : Nat

structure Layout where
  place : Place
  /-- The tokens so far, the last one in front. -/
  tokens : List Token
  levels : Levels
  /-- Whether a key may begin at this place. -/
  keyAllowed : Bool
  mark : Option KeyMark
  /-- The marks that lists and records in brackets have interrupted. -/
  outerMarks : List (Option KeyMark)
  /-- Where a colon may stand without a blank after it, in brackets. -/
  joined : Nat
  /-- For each open list in brackets, the inner one first: whether its item is a single member. -/
  pairs : List Bool
  /-- Whether a colon belongs to a record that has been opened. -/
  inRecord : Bool

namespace Layout

def start (text : List Char) : Layout :=
  ⟨.start text, [], [], true, none, [], 0, [], false⟩

def inFlow (layout : Layout) : Bool :=
  !layout.outerMarks.isEmpty

def indent (layout : Layout) : Int :=
  layout.levels.indent

def emit (layout : Layout) (token : Token) : Layout :=
  { layout with tokens := token :: layout.tokens }

/-- Puts tokens in front of those that follow the first ones. -/
def insert (layout : Layout) (before : Nat) (tokens : List Token) : Layout :=
  let later := layout.tokens.length - before
  { layout with
    tokens := layout.tokens.take later ++ tokens.reverse ++ layout.tokens.drop later }

def unwind (layout : Layout) (column : Int) : Layout :=
  if layout.inFlow then layout
  else
    let ended := layout.levels.takeWhile fun level => column < level.column
    { layout with
      tokens := List.replicate (ended.countP Level.isBlock) .blockEnd ++ layout.tokens
      levels := layout.levels.drop ended.length }

def markKey (layout : Layout) : Layout :=
  if layout.keyAllowed then
    let place := layout.place
    let isRequired := !layout.inFlow && layout.indent = place.column && layout.levels.isInBlock
    { layout with
      mark := some ⟨layout.tokens.length, isRequired, place.index, place.line, place.column⟩ }
  else layout

/-- No colon has come for the last mark. -/
def dropMark (layout : Layout) : Option Layout :=
  if layout.mark.any KeyMark.isRequired then none else some { layout with mark := none }

/-- A key outside of brackets has its colon on the same line, and not too far away. -/
def dropStale (layout : Layout) : Option Layout :=
  let isStale := !layout.inFlow && layout.mark.any fun mark =>
    mark.line < layout.place.line || mark.index + 1024 < layout.place.index
  if isStale then layout.dropMark else some layout

/-- Moves on to the next token, with a new key allowed on a new line outside of brackets. -/
def skipGap (layout : Layout) : Option Layout :=
  (layout.place.skipGap layout.indent layout.place.rest.length).map fun place =>
    { layout with
      place
      keyAllowed := layout.keyAllowed || (!layout.inFlow && layout.place.line < place.line) }

def skipBlanks (layout : Layout) : Option Layout :=
  layout.place.skipBlanks.map fun place => { layout with place }

/-- Begins a list or a record at a column, unless it is in brackets or has begun. -/
def openBlock (layout : Layout) (column before : Nat) (token : Token) : Layout :=
  if layout.inFlow then layout
  else
    let levels := layout.levels.settle column
    if levels.indent < column then
      { layout.insert before [token] with levels := ⟨column, true⟩ :: levels }
    else { layout with levels }

def nest (layout : Layout) : Layout :=
  if layout.inFlow then layout else { layout with levels := layout.levels.nest }

/-- Ends an item of a list in brackets that is a single member. -/
def endPair (layout : Layout) : Layout :=
  match layout.pairs with
  | true :: pairs => { layout.emit .flowRecordEnd with pairs := false :: pairs, inRecord := false }
  | _ => layout

end Layout
end CoreWatch.Yaml
