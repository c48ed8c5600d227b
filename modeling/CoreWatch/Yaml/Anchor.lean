import CoreWatch.Yaml.Tag
import CoreWatch.Yaml.Value

set_option autoImplicit false

namespace CoreWatch.Yaml

/-- The anchors of a document, the last one in front; one whose value has not ended has none. -/
structure Anchors where
  names : List String
  values : List (Nat × Value)

namespace Anchors

def empty : Anchors := ⟨[], []⟩

def declare (anchors : Anchors) (name : String) : Nat × Anchors :=
  (anchors.names.length, { anchors with names := name :: anchors.names })

def define (anchors : Anchors) (number : Option Nat) (value : Value) : Anchors :=
  match number with
  | some n => { anchors with values := (n, value) :: anchors.values }
  | none => anchors

def find? (anchors : Anchors) (name : String) : Option Value :=
  let later := anchors.names.takeWhile (· != name)
  if later.length < anchors.names.length then
    let number := anchors.names.length - later.length - 1
    some (((anchors.values.find? (·.1 == number)).map (·.2)).getD .invalid)
  else none

end Anchors

abbrev Handles := List (String × String)

/-- What tags that name a type begin with. -/
def typeHandle : String := "tag:yaml.org,2002:"

def scalarType (suffix : String) : ScalarType :=
  match suffix with
  | "bool" => .bool
  | "int" => .int
  | "float" => .real
  | "null" => .null
  | _ => .other

/-- The type that a tag names; a handle with a name must be known. -/
def Handles.resolve? (handles : Handles) (handle suffix : String) : Option ScalarType :=
  let meaning := (handles.find? (·.1 == handle)).map (·.2)
  let found :=
    match meaning with
    | some text => some text
    | none =>
      if handle = "!!" then some typeHandle
      else if isClosedHandle handle.toList then none
      else some handle
  found.map fun text => if text = typeHandle then scalarType suffix else .other

end CoreWatch.Yaml
