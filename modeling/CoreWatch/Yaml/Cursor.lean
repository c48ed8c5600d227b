import CoreWatch.Yaml.Anchor

set_option autoImplicit false

namespace CoreWatch.Yaml

/-- What is left of the tokens, and the anchors before them. -/
structure Cursor where
  tokens : List Token
  anchors : Anchors

abbrev Step (α : Type) := Cursor → Option (α × Cursor)

namespace Cursor

structure Marks where
  anchor : Option Nat
  type : Option ScalarType

namespace Marks

def isEmpty (marks : Marks) : Bool :=
  marks.anchor.isNone && marks.type.isNone

def scalar (marks : Marks) (isPlain : Bool) (text : String) : Value :=
  if !isPlain then .text text
  else
    match marks.type with
    | some type => .ofTyped type text
    | none => .ofWord text

end Marks

def takeMarks (handles : Handles) (cursor : Cursor) : Option (Marks × Cursor) :=
  let declared (name : String) (type : Option ScalarType) (rest : List Token) : Marks × Cursor :=
    let (number, anchors) := cursor.anchors.declare name
    (⟨some number, type⟩, ⟨rest, anchors⟩)
  match cursor.tokens with
  | .anchor name :: .tag handle suffix :: rest =>
    (handles.resolve? handle suffix).map fun type => declared name (some type) rest
  | .anchor name :: rest => some (declared name none rest)
  | .tag handle suffix :: .anchor name :: rest =>
    (handles.resolve? handle suffix).map fun type => declared name (some type) rest
  | .tag handle suffix :: rest =>
    (handles.resolve? handle suffix).map fun type => (⟨none, some type⟩, ⟨rest, cursor.anchors⟩)
  | _ => some (⟨none, none⟩, cursor)

def isNext (cursor : Cursor) (tokens : List Token) : Bool :=
  cursor.tokens.head?.any tokens.contains

def drop (cursor : Cursor) : Cursor :=
  { cursor with tokens := cursor.tokens.drop 1 }

def asList : Option (List Value × Cursor) → Option (Value × Cursor) :=
  Option.map fun (items, cursor) => (.list items, cursor)

/-- The record of what has been read, keys and values in turn. -/
def asRecord (read : Option (List Value × Cursor)) : Option (Value × Cursor) :=
  read.bind fun (nodes, cursor) => (Value.ofMembers? nodes).map fun value => (value, cursor)

mutual

/--
Reads a value, which may be a list without a level of its own where `loose` says so. Marks without a
value are those of an empty word.
-/
def readNode (handles : Handles) : (fuel : Nat) → (loose : Bool) → Step Value
  | 0, _, _ => none
  | fuel + 1, loose, cursor =>
    match cursor.tokens with
    | .link name :: _ => (cursor.anchors.find? name).map fun value => (value, cursor.drop)
    | _ => do
      let (marks, cursor) ← cursor.takeMarks handles
      let (value, cursor) ← match cursor.tokens with
        | .scalar isPlain text :: _ => some (marks.scalar isPlain text, cursor.drop)
        | .flowList :: _ => asList (readFlowItems handles fuel true cursor.drop)
        | .flowRecord :: _ => asRecord (readFlowMembers handles fuel true cursor.drop)
        | .blockList :: _ => asList (readItems handles fuel cursor.drop)
        | .blockRecord :: _ => asRecord (readMembers handles fuel cursor.drop)
        | _ =>
          if loose && cursor.isNext [.item] then asList (readLooseItems handles fuel cursor)
          else if marks.isEmpty then none
          else some (marks.scalar true "", cursor)
      return (value, { cursor with anchors := cursor.anchors.define marks.anchor value })

/-- Reads a value, or null where one of some tokens follows. -/
def readPart (handles : Handles) : (fuel : Nat) → (ends : List Token) → (loose : Bool) → Step Value
  | 0, _, _, _ => none
  | fuel + 1, ends, loose, cursor =>
    if cursor.isNext ends then some (.null, cursor) else readNode handles fuel loose cursor

def readValue (handles : Handles) : (fuel : Nat) → (ends : List Token) → (loose : Bool) → Step Value
  | 0, _, _, _ => none
  | fuel + 1, ends, loose, cursor =>
    if cursor.isNext [.value] then readPart handles fuel ends loose cursor.drop
    else some (.null, cursor)

def readItems (handles : Handles) : (fuel : Nat) → Step (List Value)
  | 0, _ => none
  | fuel + 1, cursor =>
    if cursor.isNext [.blockEnd] then some ([], cursor.drop)
    else if cursor.isNext [.item] then do
      let (item, cursor) ← readPart handles fuel [.item, .blockEnd] false cursor.drop
      let (more, cursor) ← readItems handles fuel cursor
      return (item :: more, cursor)
    else none

/-- Reads the items of a list on the level of the record that it belongs to. -/
def readLooseItems (handles : Handles) : (fuel : Nat) → Step (List Value)
  | 0, _ => none
  | fuel + 1, cursor =>
    if cursor.isNext [.item] then do
      let (item, cursor) ←
        readPart handles fuel [.item, .key, .value, .blockEnd] false cursor.drop
      let (more, cursor) ← readLooseItems handles fuel cursor
      return (item :: more, cursor)
    else some ([], cursor)

def readMembers (handles : Handles) : (fuel : Nat) → Step (List Value)
  | 0, _ => none
  | fuel + 1, cursor =>
    let ends := [.key, .value, .blockEnd]
    if cursor.isNext [.blockEnd] then some ([], cursor.drop)
    else if cursor.isNext [.key, .value] then do
      let (key, cursor) ←
        if cursor.isNext [.key] then readPart handles fuel ends true cursor.drop
        else some (.null, cursor)
      let (value, cursor) ← readValue handles fuel ends true cursor
      let (more, cursor) ← readMembers handles fuel cursor
      return (key :: value :: more, cursor)
    else none

/-- Reads the items of a list in brackets, each but the first one after a comma. -/
def readFlowItems (handles : Handles) : (fuel : Nat) → (isFirst : Bool) → Step (List Value)
  | 0, _, _ => none
  | fuel + 1, isFirst, cursor =>
    let here := if isFirst then cursor else cursor.drop
    if cursor.isNext [.flowListEnd] then some ([], cursor.drop)
    else if !isFirst && !cursor.isNext [.comma] then none
    else if here.isNext [.flowListEnd] then some ([], here.drop)
    else do
      let (item, cursor) ←
        if here.isNext [.key] then readPair handles fuel here.drop
        else readNode handles fuel false here
      let (more, cursor) ← readFlowItems handles fuel false cursor
      return (item :: more, cursor)

/-- Reads an item that is a single member, after the mark of its key. -/
def readPair (handles : Handles) : (fuel : Nat) → Step Value
  | 0, _ => none
  | fuel + 1, cursor =>
    asRecord do
      let (key, cursor) ←
        if cursor.isNext [.value, .comma, .flowListEnd] then some (.null, cursor.drop)
        else readNode handles fuel false cursor
      let (value, cursor) ← readValue handles fuel [.comma, .flowListEnd] false cursor
      return ([key, value], cursor)

def readFlowMembers (handles : Handles) : (fuel : Nat) → (isFirst : Bool) → Step (List Value)
  | 0, _, _ => none
  | fuel + 1, isFirst, cursor =>
    let here := if isFirst then cursor else cursor.drop
    if cursor.isNext [.flowRecordEnd] then some ([], cursor.drop)
    else if !isFirst && !cursor.isNext [.comma] then none
    else if here.isNext [.flowRecordEnd] then some ([], here.drop)
    else do
      let (key, cursor) ←
        if here.isNext [.key] then
          readPart handles fuel [.value, .comma, .flowRecordEnd] false here.drop
        else if here.isNext [.value] then some (.null, here)
        else readNode handles fuel false here
      let (value, cursor) ←
        if here.isNext [.key, .value] then
          readValue handles fuel [.comma, .flowRecordEnd] false cursor
        else some (.null, cursor)
      let (more, cursor) ← readFlowMembers handles fuel false cursor
      return (key :: value :: more, cursor)

end

def readWhole (handles : Handles) (cursor : Cursor) : Option (Value × Cursor) :=
  readNode handles (4 * cursor.tokens.length + 4) false cursor

end Cursor

end CoreWatch.Yaml
