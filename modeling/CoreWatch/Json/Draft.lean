import CoreWatch.Bits
import CoreWatch.Json.Basic

set_option autoImplicit false

namespace CoreWatch

/-- A number as it was written; `whole` without point and exponent. -/
structure Numeral where
  negative : Bool
  decimal : Decimal
  whole : Bool

/-- A JSON text up to its first fault. -/
inductive Draft
  | null
  | bool (value : Bool)
  | number (value : Numeral)
  /-- A string, or nothing when an escape in it names half of a surrogate pair. -/
  | string (value : Option String)
  /-- The items before the end of the list, or before a fault when it is not closed. -/
  | list (items : List Draft) (closed : Bool)
  /-- The members before the end of the record, or before a fault when it is not closed. -/
  | record (members : List (Option String × Draft)) (closed : Bool)
  | broken

namespace Numeral

/-- The integer of a numeral without point and exponent, except for minus zero. -/
def int? (n : Numeral) : Option Int :=
  if !n.whole then none
  else if n.negative then
    if n.decimal.digits = 0 || n.decimal.digits > Bits.bound 63 then none
    else some (-n.decimal.digits)
  else if n.decimal.digits < Bits.bound 64 then some n.decimal.digits
  else none

def double (n : Numeral) : Double :=
  .ofDecimal n.negative n.decimal

def inRange (n : Numeral) : Bool :=
  match n.double with
  | .finite .. => true
  | _ => false

end Numeral

namespace Draft

def isSpace (c : Char) : Bool :=
  c = ' ' || c = '\n' || c = '\t' || c = '\r'

def skipSpace (text : List Char) : List Char :=
  text.dropWhile isSpace

/-- Reads a number; a leading zero stands alone, and point and exponent need digits. -/
def readNumeral? (text : List Char) : Option (Numeral × List Char) :=
  let (negative, body) :=
    match text with
    | '-' :: rest => (true, rest)
    | _ => (false, text)
  let (digits, afterDigits) := Decimal.takeDigits body
  if digits.isEmpty || (digits.head? = some '0' && digits.length > 1) then none
  else
    let fraction? :=
      match afterDigits with
      | '.' :: rest =>
        let (fraction, rest) := Decimal.takeDigits rest
        if fraction.isEmpty then none else some (fraction, rest)
      | _ => some ([], afterDigits)
    fraction?.bind fun (fraction, afterFraction) =>
      let exponent? :=
        match afterFraction with
        | c :: rest =>
          if c = 'e' || c = 'E' then
            let (down, rest) := Decimal.takeSign rest
            let (digits, rest) := Decimal.takeDigits rest
            if digits.isEmpty then none
            else
              let size := Decimal.digitsValue digits
              some (if down then -(size : Int) else size, true, rest)
          else some (0, false, afterFraction)
        | [] => some (0, false, [])
      exponent?.map fun (power, hasExponent, rest) =>
        (⟨negative, ⟨Decimal.digitsValue (digits ++ fraction), power - fraction.length⟩,
          fraction.isEmpty && !hasExponent⟩, rest)

private def hexValue? (c : Char) : Option Nat :=
  if c.isDigit then some (c.toNat - '0'.toNat)
  else if 'a' ≤ c && c ≤ 'f' then some (c.toNat - 'a'.toNat + 10)
  else if 'A' ≤ c && c ≤ 'F' then some (c.toNat - 'A'.toNat + 10)
  else none

private def unit? (a b c d : Char) : Option Nat := do
  let a ← hexValue? a
  let b ← hexValue? b
  let c ← hexValue? c
  let d ← hexValue? d
  return a * 4096 + b * 256 + c * 16 + d

/-- One element of a string: a character, or a UTF-16 unit written as an escape. -/
inductive Piece
  | char (c : Char)
  | unit (code : Nat)

private def simpleEscape? : Char → Option Char
  | '"' => some '"'
  | '\\' => some '\\'
  | '/' => some '/'
  | 'b' => some '\x08'
  | 'f' => some '\x0c'
  | 'n' => some '\n'
  | 'r' => some '\r'
  | 't' => some '\t'
  | _ => none

/-- Reads a string after its opening quote; control characters must be escaped. -/
def readPieces? : List Char → Option (List Piece × List Char)
  | [] => none
  | '"' :: rest => some ([], rest)
  | '\\' :: 'u' :: a :: b :: c :: d :: rest =>
    match unit? a b c d, readPieces? rest with
    | some code, some (pieces, rest) => some (.unit code :: pieces, rest)
    | _, _ => none
  | '\\' :: c :: rest =>
    match simpleEscape? c, readPieces? rest with
    | some c, some (pieces, rest) => some (.char c :: pieces, rest)
    | _, _ => none
  | c :: rest =>
    if c.toNat < 32 || c = '\\' then none
    else (readPieces? rest).map fun (pieces, rest) => (.char c :: pieces, rest)

/-- Joins surrogate pairs; a half without its other half makes the text unreadable. -/
def joinPieces? : List Piece → Option (List Char)
  | [] => some []
  | .char c :: rest => (joinPieces? rest).map (c :: ·)
  | .unit high :: .unit low :: rest =>
    if 0xD800 ≤ high && high ≤ 0xDBFF then
      if 0xDC00 ≤ low && low ≤ 0xDFFF then
        (joinPieces? rest).map
          (Char.ofNat (0x10000 + (high - 0xD800) * 1024 + (low - 0xDC00)) :: ·)
      else none
    else if 0xDC00 ≤ high && high ≤ 0xDFFF then none
    else (joinPieces? (.unit low :: rest)).map (Char.ofNat high :: ·)
  | .unit code :: rest =>
    if 0xD800 ≤ code && code ≤ 0xDFFF then none
    else (joinPieces? rest).map (Char.ofNat code :: ·)

private def readWord (word : String) (value : Draft) (text : List Char) :
    Draft × Option (List Char) :=
  if word.toList.isPrefixOf text then (value, some (text.drop word.length))
  else (.broken, none)

mutual

/-- Reads one value; nothing is left to read after a fault. -/
def readValue : (fuel : Nat) → List Char → Draft × Option (List Char)
  | 0, _ => (.broken, none)
  | fuel + 1, text =>
    match skipSpace text with
    | 'n' :: rest => readWord "null" .null ('n' :: rest)
    | 't' :: rest => readWord "true" (.bool true) ('t' :: rest)
    | 'f' :: rest => readWord "false" (.bool false) ('f' :: rest)
    | '"' :: rest =>
      match readPieces? rest with
      | none => (.broken, none)
      | some (pieces, rest) => (.string ((joinPieces? pieces).map String.ofList), some rest)
    | '[' :: rest =>
      match skipSpace rest with
      | ']' :: rest => (.list [] true, some rest)
      | rest =>
        let (items, rest?) := readItems fuel rest
        (.list items rest?.isSome, rest?)
    | '\x7b' :: rest =>
      match skipSpace rest with
      | '\x7d' :: rest => (.record [] true, some rest)
      | rest =>
        let (members, rest?) := readMembers fuel rest
        (.record members rest?.isSome, rest?)
    | c :: rest =>
      if c = '-' || c.isDigit then
        match readNumeral? (c :: rest) with
        | none => (.broken, none)
        | some (value, rest) => (.number value, some rest)
      else (.broken, none)
    | [] => (.broken, none)

def readItems : (fuel : Nat) → List Char → List Draft × Option (List Char)
  | 0, _ => ([], none)
  | fuel + 1, text =>
    match readValue fuel text with
    | (item, none) => ([item], none)
    | (item, some rest) =>
      match skipSpace rest with
      | ']' :: rest => ([item], some rest)
      | ',' :: rest =>
        let (items, rest?) := readItems fuel rest
        (item :: items, rest?)
      | _ => ([item], none)

def readMembers : (fuel : Nat) → List Char → List (Option String × Draft) × Option (List Char)
  | 0, _ => ([], none)
  | fuel + 1, text =>
    match skipSpace text with
    | '"' :: rest =>
      match readPieces? rest with
      | none => ([], none)
      | some (pieces, rest) =>
        let key := (joinPieces? pieces).map String.ofList
        match skipSpace rest with
        | ':' :: rest =>
          match readValue fuel rest with
          | (value, none) => ([(key, value)], none)
          | (value, some rest) =>
            match skipSpace rest with
            | '\x7d' :: rest => ([(key, value)], some rest)
            | ',' :: rest =>
              let (members, rest?) := readMembers fuel rest
              ((key, value) :: members, rest?)
            | _ => ([(key, value)], none)
        | _ => ([(key, .broken)], none)
    | _ => ([], none)

end

/-- The draft of a text, and whether nothing but space follows it. -/
def ofText (text : List Char) : Draft × Bool :=
  match readValue (2 * text.length + 2) text with
  | (draft, none) => (draft, false)
  | (draft, some rest) => (draft, (skipSpace rest).isEmpty)

/-- The value of a draft without faults, nested at most `depth` deep. -/
def toJson? : (depth : Nat) → Draft → Option Json
  | _, .null => some .null
  | _, .bool value => some (.bool value)
  | _, .number n =>
    match n.int? with
    | some i => some (.int i)
    | none => if n.inRange then some (.real n.double) else none
  | _, .string value => value.map .str
  | depth + 1, .list items true => (items.mapM (toJson? depth)).map .arr
  | depth + 1, .record members true =>
    (members.mapM fun (member : Option String × Draft) => do
      return (← member.1, ← toJson? depth member.2)).map Json.object
  | _, _ => none

end Draft

def Json.depthLimit : Nat := 127

def Json.read? (text : String) : Option Json :=
  match Draft.ofText text.toList with
  | (draft, true) => draft.toJson? Json.depthLimit
  | _ => none

end CoreWatch
