import CoreWatch.Bits
import CoreWatch.Digits
import CoreWatch.Double.Decimal

set_option autoImplicit false

namespace CoreWatch.Yaml

def nullWords : List String :=
  ["null", "Null", "NULL", "~"]

def trueWords : List String :=
  ["true", "True", "TRUE"]

def falseWords : List String :=
  ["false", "False", "FALSE"]

def infinityWords : List String :=
  [".inf", ".Inf", ".INF"]

def nanWords : List String :=
  [".nan", ".NaN", ".NAN"]

/-- Digits after a leading zero, which stand for their text in spite of all. -/
def isZeroPadded (word : List Char) : Bool :=
  match (Decimal.takeSign word).2 with
  | '0' :: rest => !rest.isEmpty && rest.all Char.isDigit
  | _ => false

/-- A whole number with an optional sign, which the base may follow. -/
def readInt? (word : List Char) : Option Int :=
  let (negative, body) := Decimal.takeSign word
  let (base, digits) := Digits.splitBase body
  if base = 10 && isZeroPadded word then none
  else (Digits.read? base digits).map fun value => if negative then -(value : Int) else value

/-- Whole numbers that can be held: 128 bits, of which negative ones lose one. -/
def isHeld (n : Int) : Bool :=
  -(Bits.bound 127 : Int) ≤ n && n < Bits.bound 128

def readFinite? (word : List Char) : Option Double :=
  let body := match word with
    | '+' :: '+' :: _ => []
    | '+' :: '-' :: _ => []
    | '+' :: rest => rest
    | _ => word
  match Double.read? body with
  | some (.finite negative rank) => some (.finite negative rank)
  | _ => none

def readSpecial? (word : String) : Option Double :=
  let (negative, body) := Decimal.takeSign word.toList
  if infinityWords.contains (String.ofList body) then some (.infinite negative)
  else if nanWords.contains word then some .nan
  else none

/-- Whether a plain word would be read as something else than its own text. -/
def isTaken (word : String) : Bool :=
  word.isEmpty || nullWords.contains word || trueWords.contains word || falseWords.contains word ||
    isZeroPadded word.toList || (readInt? word.toList).any isHeld ||
    (readFinite? word.toList).isSome || (readSpecial? word).isSome

end CoreWatch.Yaml
