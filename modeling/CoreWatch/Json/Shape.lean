import CoreWatch.Bits
import CoreWatch.Topology.Component

set_option autoImplicit false

namespace CoreWatch

abbrev Shape := Draft → Bool

namespace Shape

def text : Shape
  | .string (some _) => true
  | _ => false

def word (words : List String) : Shape
  | .string (some value) => words.contains value
  | _ => false

def flag : Shape
  | .bool _ => true
  | _ => false

def natural (bound : Nat) : Shape
  | .number n =>
    match n.int? with
    | some (.ofNat value) => value ≤ bound
    | _ => false
  | _ => false

def count : Shape :=
  natural (Bits.top 64)

def integer : Shape
  | .number n =>
    match n.int? with
    | some value => Bits.holds 64 value
    | none => false
  | _ => false

def nullable (shape : Shape) : Shape
  | .null => true
  | draft => shape draft

def list (item : Shape) : Shape
  | .list items closed => closed && items.all item
  | _ => false

def table (value : Shape) : Shape
  | .record members closed =>
    closed && members.all fun member => member.1.isSome && value member.2
  | _ => false

structure Field where
  name : String
  required : Bool
  shape : Shape

def need (name : String) (shape : Shape) : Field := ⟨name, true, shape⟩

/-- A member that may be missing or null. -/
def may (name : String) (shape : Shape) : Field := ⟨name, false, nullable shape⟩

/-- A record with the given members, each at most once; others need only be JSON. -/
def record (fields : List Field) : Shape
  | .record members closed =>
    closed &&
      (members.all fun (key, value) =>
        match key with
        | none => false
        | some key =>
          match fields.find? (·.name == key) with
          | some field => field.shape value
          | none => value.isWellFormed) &&
      fields.all fun field =>
        let times := (members.filter (·.1 == some field.name)).length
        times == 1 || (times == 0 && !field.required)
  | _ => false

def either (left right : Shape) : Shape :=
  fun draft => left draft || right draft

end Shape

def Json.readShaped? (shape : Shape) (text : List Char) : Option Json :=
  match Draft.ofText text with
  | (draft, true) => if shape draft then draft.toJson? depthLimit else none
  | _ => none

end CoreWatch
