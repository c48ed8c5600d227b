import CoreWatch.Bits
import CoreWatch.Yaml.Word

set_option autoImplicit false

namespace CoreWatch.Yaml

inductive Value
  | null
  | bool (value : Bool)
  /-- A whole number of 64 bits with a sign. -/
  | int (value : Int)
  /-- Another number, as it is written. -/
  | real (word : String)
  | text (value : String)
  | list (items : List Value)
  | record (members : List (Value × Value))
  /-- A word that is not of the type that its tag names. -/
  | invalid

/-- The types that tags can name; of a value of an unknown type the text counts. -/
inductive ScalarType
  | bool
  | int
  | real
  | null
  | other
deriving DecidableEq, Repr

def readSigned? (base : Nat) (word : List Char) : Option Int :=
  let (negative, digits) := Decimal.takeSign word
  let number := (Digits.read? base digits).map fun n => if negative then -(n : Int) else n
  number.filter (Bits.holds 64)

def isRealWord (word : String) : Bool :=
  infinityWords.contains (String.ofList (Decimal.takeSign word.toList).2) || word = ".nan" ||
    word = ".NAN" || (Double.read? word.toList).isSome

/-- The number that a word begins like: with a base, or with a plus sign. -/
def readMarked? : List Char → Option Int
  | '0' :: 'x' :: digits => readSigned? 16 digits
  | '0' :: 'o' :: digits => readSigned? 8 digits
  | '+' :: number => readSigned? 10 number
  | _ => none

namespace Value

/-- What a word without quotes and tags stands for. -/
def ofWord (word : String) : Value :=
  match readMarked? word.toList with
  | some n => .int n
  | none =>
    match word with
    | "~" => .null
    | "null" => .null
    | "true" => .bool true
    | "false" => .bool false
    | _ =>
      match readSigned? 10 word.toList with
      | some n => .int n
      | none => if isRealWord word then .real word else .text word

def ofTyped (type : ScalarType) (word : String) : Value :=
  match type with
  | .other => .text word
  | .bool =>
    match word with
    | "true" => .bool true
    | "false" => .bool false
    | _ => .invalid
  | .int => ((readSigned? 10 word.toList).map Value.int).getD .invalid
  | .real => if isRealWord word then .real word else .invalid
  | .null => if word = "~" || word = "null" then .null else .invalid

mutual

/-- Whether two values are the same key; members are compared in their order. -/
def same : Value → Value → Bool
  | .null, .null => true
  | .bool a, .bool b => a == b
  | .int a, .int b => a == b
  | .real a, .real b => a == b
  | .text a, .text b => a == b
  | .list a, .list b => sameItems a b
  | .record a, .record b => sameMembers a b
  | .invalid, .invalid => true
  | _, _ => false

def sameItems : List Value → List Value → Bool
  | [], [] => true
  | a :: as, b :: bs => same a b && sameItems as bs
  | _, _ => false

def sameMembers : List (Value × Value) → List (Value × Value) → Bool
  | [], [] => true
  | (a, x) :: as, (b, y) :: bs => same a b && same x y && sameMembers as bs
  | _, _ => false

end

def isInvalid : Value → Bool
  | .invalid => true
  | _ => false

/-- Keys and their values in turn; where a key should be, an invalid value is passed over. -/
def pairUp : List Value → List (Value × Value)
  | [] => []
  | key :: rest =>
    if key.isInvalid then pairUp rest
    else
      match rest with
      | [] => []
      | value :: rest => (key, value) :: pairUp rest

def areDistinct : List Value → Bool
  | [] => true
  | key :: keys => !keys.any key.same && areDistinct keys

/-- A record from its keys and values in turn, in which no key is given twice. -/
def ofMembers? (nodes : List Value) : Option Value :=
  let members := pairUp nodes
  if areDistinct (members.map Prod.fst) then some (.record members) else none

end Value
end CoreWatch.Yaml
