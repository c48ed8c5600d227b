import CoreWatch.Config.Setting

set_option autoImplicit false

namespace CoreWatch.Config.Toml

inductive Origin
  /-- It has a head of its own. -/
  | headed
  /-- The head of a table inside it names it. -/
  | implied
  /-- A key with dots names it. -/
  | dotted
deriving DecidableEq

inductive Node
  | value (setting : Setting)
  | table (origin : Origin) (members : List (String × Node))
  /-- A list of tables, of which only the last one still grows. -/
  | tables (last : List (String × Node))

abbrev Members := List (String × Node)

namespace Members

def get? (members : Members) (key : String) : Option Node :=
  (members.find? (·.1 == key)).map (·.2)

/-- Puts a node under a key, in the place of the node that was there. -/
def put (members : Members) (key : String) (node : Node) : Members :=
  if (members.get? key).isSome then
    members.map fun (name, old) => if name == key then (name, node) else (name, old)
  else members ++ [(key, node)]

/-- Changes the members of the table under a key that a head may pass through. -/
def within (members : Members) (key : String) (change : Members → Option Members) :
    Option Members :=
  match members.get? key with
  | none => (change []).map fun inner => members.put key (.table .implied inner)
  | some (.table origin inner) =>
    (change inner).map fun inner => members.put key (.table origin inner)
  | some (.tables last) => (change last).map fun last => members.put key (.tables last)
  | some (.value _) => none

def openTable (members : Members) : (path : List String) → Option Members
  | [] => none
  | [key] =>
    match members.get? key with
    | none => some (members.put key (.table .headed []))
    | some (.table .implied inner) => some (members.put key (.table .headed inner))
    | _ => none
  | key :: path => members.within key fun inner => openTable inner path

def openItem (members : Members) : (path : List String) → Option Members
  | [] => none
  | [key] =>
    match members.get? key with
    | none => some (members.put key (.tables []))
    | some (.tables _) => some (members.put key (.tables []))
    | _ => none
  | key :: path => members.within key fun inner => openItem inner path

/-- Gives a value to a key, whose parts but the last one name tables. -/
def assign (members : Members) (setting : Setting) : (path : List String) → Option Members
  | [] => none
  | [key] =>
    match members.get? key with
    | none => some (members.put key (.value setting))
    | some _ => none
  | key :: path =>
    match members.get? key with
    | none =>
      (assign [] setting path).map fun inner => members.put key (.table .dotted inner)
    | some (.table .dotted inner) =>
      (assign inner setting path).map fun inner => members.put key (.table .dotted inner)
    | some (.table .implied inner) =>
      if path.length = 1 then none
      else (assign inner setting path).map fun inner => members.put key (.table .implied inner)
    | _ => none

def assignAt (members : Members) (setting : Setting) (key : List String) :
    (place : List String) → Option Members
  | [] => members.assign setting key
  | name :: place => members.within name fun inner => assignAt inner setting key place

def settings (members : Members) : Settings :=
  members.map fun (key, node) =>
    match node with
    | .value setting => (key, setting)
    | .table _ _ => (key, .compound)
    | .tables _ => (key, .compound)

end Members
end CoreWatch.Config.Toml
