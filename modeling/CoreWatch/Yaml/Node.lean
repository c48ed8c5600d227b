import CoreWatch.Yaml.Scalar

set_option autoImplicit false

namespace CoreWatch.Yaml

inductive Node
  | scalar (text : String)
  | list (items : List Node)
  /-- Members in their order; the keys are plain words. -/
  | record (members : List (String × Node))

namespace Node

/-- A text and the end of its line, unless the text brings one. -/
def scalarLine (indent : Nat) (text : String) : List Char :=
  let (chars, ended) := renderScalar indent text
  if ended then chars else chars ++ ['\n']

mutual

/-- The rest of a line after a key, and the lines that belong to the key. -/
def renderValue (indent : Nat) : Node → List Char
  | .scalar text => ' ' :: scalarLine (indent + step) text
  | .list [] => " []\n".toList
  | .list (item :: items) => '\n' :: renderItems indent (item :: items)
  | .record [] => " \x7b\x7d\n".toList
  | .record (member :: members) => '\n' :: renderMembers (indent + step) false (member :: members)

def renderItems (indent : Nat) : List Node → List Char
  | [] => []
  | item :: items =>
    spaces indent ++ '-' :: ' ' :: renderItem indent item ++ renderItems indent items

def renderItem (indent : Nat) : Node → List Char
  | .scalar text => scalarLine (indent + step) text
  | .list [] => "[]\n".toList
  | .list (item :: items) =>
    '-' :: ' ' :: renderItem (indent + step) item ++ renderItems (indent + step) items
  | .record [] => "\x7b\x7d\n".toList
  | .record (member :: members) => renderMembers (indent + step) true (member :: members)

/-- The members of a record; the first one may stand on a line that has begun. -/
def renderMembers (indent : Nat) (begun : Bool) : List (String × Node) → List Char
  | [] => []
  | (key, value) :: members =>
    (if begun then [] else spaces indent) ++ key.toList ++ ':' :: renderValue indent value ++
      renderMembers indent false members

end

def render : Node → String
  | .scalar text => String.ofList (scalarLine 0 text)
  | .list items => String.ofList (if items.isEmpty then "[]\n".toList else renderItems 0 items)
  | .record members =>
    String.ofList (if members.isEmpty then "\x7b\x7d\n".toList else renderMembers 0 false members)

end Node
end CoreWatch.Yaml
