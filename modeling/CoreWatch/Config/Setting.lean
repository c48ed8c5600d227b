import CoreWatch.Bits
import CoreWatch.Double.Decimal
import CoreWatch.Text.Ascii

set_option autoImplicit false

namespace CoreWatch.Config

inductive Setting
  | null
  | bool (value : Bool)
  /-- A whole number of 64 bits with a sign. -/
  | int (value : Int)
  | real (value : Double)
  | text (value : String)
  /-- A list or a record, of which no field is made. -/
  | compound

/-- Settings by their keys; of several with one key the last counts. -/
abbrev Settings := List (String × Setting)

def readInteger? (word : List Char) : Option Int :=
  let (negative, digits) := Decimal.takeSign word
  if digits.isEmpty || !digits.all Char.isDigit then none
  else
    let value := Decimal.digitsValue digits
    some (if negative then -(value : Int) else value)

def isInt64 (n : Int) : Bool :=
  Bits.holds 64 n

def readInt64? (word : List Char) : Option Int :=
  (readInteger? word).filter isInt64

def maxWhole : Nat := Bits.top 64

def readWhole? (word : List Char) : Option Nat :=
  if word.head? = some '-' then none
  else
    match readInteger? word with
    | some (.ofNat n) => if n ≤ maxWhole then some n else none
    | _ => none

/-- A number rounded to the nearest whole one, cut to what can be held. -/
def roundWhole : Double → Nat
  | .nan => 0
  | .infinite negative => if negative then 0 else maxWhole
  | x => min ((x.nearestInt?.getD 0).toNat) maxWhole

/-- Words for yes and no, in any letter case, or a whole number. -/
def readCountText? (text : String) : Option Nat :=
  let word := Text.lowercase text
  if ["true", "on", "yes"].contains word then some 1
  else if ["false", "off", "no"].contains word then some 0
  else readWhole? text.toList

namespace Setting

/-- The setting of a text that stands for itself unless it is a truth value or a number. -/
def ofWord (word : String) : Setting :=
  let chars := word.toList
  match Text.lowercase word with
  | "true" => .bool true
  | "false" => .bool false
  | _ =>
    match readInt64? chars, Double.read? chars with
    | some n, _ => .int n
    | none, some x => .real x
    | none, none => .text word

def count? : Setting → Option Nat
  | bool value => some (if value then 1 else 0)
  | int (.ofNat n) => some n
  | real x => some (roundWhole x)
  | text value => readCountText? value
  | _ => none

def port? (setting : Setting) : Option Nat :=
  setting.count?.filter (· ≤ 65535)

def text? : Setting → Option String
  | bool value => some (if value then "true" else "false")
  | int value => some (toString value)
  | real x => some x.toText
  | text value => some value
  | _ => none

def optionalText? : Setting → Option (Option String)
  | null => some none
  | setting => setting.text?.map some

end Setting

private def isNameChar (c : Char) : Bool :=
  c.isAlphanum || c = '_' || c = '-' || c = ' '

/-- Whether a text leads on into a value: to members after dots, and to items in brackets. -/
def isPath : (fuel : Nat) → List Char → Bool
  | _, [] => true
  | 0, _ => false
  | fuel + 1, '.' :: rest =>
    let name := rest.takeWhile isNameChar
    !name.isEmpty && isPath fuel (rest.drop name.length)
  | fuel + 1, '[' :: rest =>
    let index := rest.takeWhile (· != ']')
    index.head? != some '+' && (readInt64? index).isSome && index.length < rest.length &&
      isPath fuel (rest.drop (index.length + 1))
  | _, _ => false

namespace Settings

/-- A setting under its key in small letters; a key that leads into a value makes it compound. -/
def entry (key : String) (setting : Setting) : String × Setting :=
  let chars := Text.lower key.toList
  let name := chars.takeWhile isNameChar
  let rest := chars.drop name.length
  if !name.isEmpty && !rest.isEmpty && isPath rest.length rest then
    (String.ofList name, .compound)
  else (String.ofList chars, setting)

def ofEntries (entries : List (String × Setting)) : Settings :=
  entries.map fun (key, setting) => entry key setting

def get? (settings : Settings) (key : String) : Option Setting :=
  (settings.findRev? (·.1 == key)).map (·.2)

end Settings
end CoreWatch.Config
