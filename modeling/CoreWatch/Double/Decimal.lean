import CoreWatch.Double.Basic
import CoreWatch.Text.Ascii

set_option autoImplicit false

namespace CoreWatch

/-- The number `digits * 10 ^ power`. -/
structure Decimal where
  digits : Nat
  power : Int
deriving DecidableEq

namespace Decimal

def digitsValue (digits : List Char) : Nat :=
  digits.foldl (fun value c => 10 * value + (c.toNat - '0'.toNat)) 0

def takeDigits (text : List Char) : List Char × List Char :=
  (text.takeWhile Char.isDigit, text.dropWhile Char.isDigit)

def takeSign : List Char → Bool × List Char
  | '-' :: rest => (true, rest)
  | '+' :: rest => (false, rest)
  | text => (false, text)

/-- The digits of an exponent, with an optional sign; nothing may follow. -/
def readExponent? (text : List Char) : Option Int :=
  let (negative, body) := takeSign text
  if body.isEmpty || !body.all Char.isDigit then none
  else some (if negative then -(digitsValue body : Int) else digitsValue body)

def takeFraction : List Char → List Char × List Char
  | '.' :: rest => takeDigits rest
  | text => ([], text)

/-- Reads an unsigned decimal: digits with an optional point, then an optional exponent. -/
def read? (text : List Char) : Option Decimal :=
  let (whole, afterWhole) := takeDigits text
  let (fraction, tail) := takeFraction afterWhole
  if whole.isEmpty && fraction.isEmpty then none
  else
    let power? :=
      match tail with
      | [] => some 0
      | c :: rest => if c = 'e' || c = 'E' then readExponent? rest else none
    power?.map fun power => ⟨digitsValue (whole ++ fraction), power - fraction.length⟩

/-- The text of a decimal with all its places and no exponent. -/
def plain (d : Decimal) : List Char :=
  let digits := Nat.toDigits 10 d.digits
  if 0 ≤ d.power then
    digits ++ List.replicate d.power.toNat '0'
  else
    let places := (-d.power).toNat
    if places < digits.length then
      digits.take (digits.length - places) ++ '.' :: digits.drop (digits.length - places)
    else
      '0' :: '.' :: List.replicate (places - digits.length) '0' ++ digits

def trimmed (d : Decimal) : Decimal :=
  if d.digits ≠ 0 ∧ d.digits % 10 = 0 then trimmed ⟨d.digits / 10, d.power + 1⟩ else d
termination_by d.digits
decreasing_by omega

end Decimal

namespace Double

/--
The double nearest to a decimal. Powers beyond the range of doubles are cut to where the answer is
infinite or zero already.
-/
def ofDecimal (negative : Bool) (d : Decimal) : Double :=
  if 0 ≤ d.power then
    ofUnits negative (d.digits * Nat.pow 10 (min d.power.toNat 400) * one) 1
  else
    ofUnits negative (d.digits * one) (Nat.pow 10 (min (-d.power).toNat (d.digits.log2 + 400)))

/-- Reads a signed decimal, or an infinity or not-a-number in any letter case. -/
def read? (text : List Char) : Option Double :=
  let (negative, body) := Decimal.takeSign text
  let word := Text.lower body
  if word = "inf".toList || word = "infinity".toList then some (.infinite negative)
  else if word = "nan".toList then some .nan
  else (Decimal.read? body).map (ofDecimal negative)

/-- The power of ten of the leading digit of a number of units. -/
def leadingPower (amount : Nat) : Int :=
  (Nat.toDigits 10 (amount * Nat.pow 10 324 / one)).length - 325

/--
The two decimals of `count` significant digits around a number of units, the nearer one first;
the upper one when both are equally near.
-/
def gridNeighbours (amount count : Nat) : List Decimal :=
  let power := leadingPower amount + 1 - count
  let num := amount * Nat.pow 10 (-power).toNat
  let den := one * Nat.pow 10 power.toNat
  let below := Decimal.trimmed ⟨num / den, power⟩
  let above := Decimal.trimmed ⟨num / den + 1, power⟩
  if 2 * (num % den) < den then [below, above] else [above, below]

def readsBack (rank : Fin topRank) (d : Decimal) : Bool :=
  read? d.plain = some (.finite false rank)

/-- The first decimal that reads back, of at most 17 digits. -/
def searchDigits (rank : Fin topRank) : Option Decimal :=
  (List.range' 1 17).findSome? fun count =>
    (gridNeighbours (units rank) count).find? (readsBack rank)

/-- All the digits of a double, which always read back. -/
def exactDecimal (rank : Fin topRank) : Decimal :=
  ⟨units rank * Nat.pow 5 unitPlaces, -(unitPlaces : Int)⟩

def shortest (rank : Fin topRank) : Decimal :=
  (searchDigits rank).getD (exactDecimal rank)

def toChars : Double → List Char
  | .nan => "NaN".toList
  | .infinite negative => if negative then "-inf".toList else "inf".toList
  | .finite negative rank =>
    let magnitude := if rank.val = 0 then ['0'] else (shortest rank).plain
    if negative then '-' :: magnitude else magnitude

/-- The fewest digits that read back; whole numbers have no point. -/
def toText (x : Double) : String :=
  String.ofList x.toChars

end Double
end CoreWatch
