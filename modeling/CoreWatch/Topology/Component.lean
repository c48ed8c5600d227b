import CoreWatch.Json.Draft

set_option autoImplicit false

namespace CoreWatch

structure Component where
  name : String
  /-- A free-form role, for instance `5G-Control-Plane`. -/
  type : String
  address : String
  running : Bool
  ports : List Nat
deriving DecidableEq, Repr

/-- What is wrong with a typed document at the place where reading it stops. -/
inductive DocumentProblem
  /-- The text is not JSON from here on. -/
  | malformed
  /-- The text is JSON but not of the shape that is wanted. -/
  | mismatch
deriving DecidableEq, Repr

namespace Draft

/-- The problem of a value that is not of the wanted type; lists and records are not looked into. -/
def rejection : Draft → DocumentProblem
  | .broken => .malformed
  | .string none => .malformed
  | .number n => if n.inRange then .mismatch else .malformed
  | _ => .mismatch

def asString (draft : Draft) : Except DocumentProblem String :=
  match draft with
  | .string (some value) => .ok value
  | _ => .error draft.rejection

def asBool (draft : Draft) : Except DocumentProblem Bool :=
  match draft with
  | .bool value => .ok value
  | _ => .error draft.rejection

def asNat (bound : Nat) (draft : Draft) : Except DocumentProblem Nat :=
  match draft with
  | .number n =>
    match n.int? with
    | some (.ofNat value) => if value ≤ bound then .ok value else .error .mismatch
    | _ => .error draft.rejection
  | _ => .error draft.rejection

def asList {α : Type} (item : Draft → Except DocumentProblem α) (draft : Draft) :
    Except DocumentProblem (List α) :=
  match draft with
  | .list items closed => do
    let values ← items.mapM item
    if closed then .ok values else .error .malformed
  | _ => .error draft.rejection

mutual

/-- Whether a value that nobody reads is JSON: half a surrogate pair and any number may stand. -/
def isWellFormed : Draft → Bool
  | .list items closed => allWellFormed items && closed
  | .record members closed => membersWellFormed members && closed
  | .broken => false
  | _ => true

def allWellFormed : List Draft → Bool
  | [] => true
  | item :: items => item.isWellFormed && allWellFormed items

def membersWellFormed : List (Option String × Draft) → Bool
  | [] => true
  | (_, value) :: members => value.isWellFormed && membersWellFormed members

end

def skipped (draft : Draft) : Except DocumentProblem Unit :=
  if draft.isWellFormed then .ok () else .error .malformed

mutual

def ofJson : Json → Draft
  | .null => .null
  | .bool value => .bool value
  | .int value => .number ⟨value < 0, ⟨value.natAbs, 0⟩, true⟩
  | .real _ => .number ⟨false, ⟨0, 0⟩, false⟩
  | .str value => .string (some value)
  | .arr items => .list (ofItems items) true
  | .obj members => .record (ofMembers members) true

def ofItems : List Json → List Draft
  | [] => []
  | item :: items => ofJson item :: ofItems items

def ofMembers : List (String × Json) → List (Option String × Draft)
  | [] => []
  | (key, value) :: members => (some key, ofJson value) :: ofMembers members

end
end Draft

namespace Component

structure Fields where
  name : Option String := none
  type : Option String := none
  address : Option String := none
  running : Option Bool := none
  ports : Option (List Nat) := none

/-- Reads a value into a place that must still be free; that is seen before the value is read. -/
private def fill {α : Type} (known : Option α) (value : Except DocumentProblem α) :
    Except DocumentProblem (Option α) :=
  if known.isSome then .error .mismatch else value.map some

def readPorts : Draft → Except DocumentProblem (List Nat) :=
  Draft.asList (Draft.asNat 65535)

/-- Takes in one member; members with other keys are skipped. -/
def Fields.read (fields : Fields) (key : Option String) (value : Draft) :
    Except DocumentProblem Fields :=
  match key with
  | none => .error .malformed
  | some "name" => do return { fields with name := ← fill fields.name value.asString }
  | some "type" => do return { fields with type := ← fill fields.type value.asString }
  | some "address" => do return { fields with address := ← fill fields.address value.asString }
  | some "running" => do return { fields with running := ← fill fields.running value.asBool }
  | some "ports" => do return { fields with ports := ← fill fields.ports (readPorts value) }
  | some _ => value.skipped.map fun _ => fields

/-- The component of a whole record: name, address and running state are required. -/
def Fields.component? (fields : Fields) : Option Component := do
  return {
    name := ← fields.name
    type := fields.type.getD ""
    address := ← fields.address
    running := ← fields.running
    ports := fields.ports.getD [] }

/-- The item at a place of a list; a list that breaks off before it is malformed. -/
private def itemAt (items : List Draft) (closed : Bool) (place : Nat) :
    Except DocumentProblem (Option Draft) :=
  match items[place]? with
  | some item => .ok (some item)
  | none => if closed then .ok none else .error .malformed

/-- Reads a component that stands as the list of its values; type and ports may be missing. -/
private def ofList (items : List Draft) (closed : Bool) : Except DocumentProblem Component := do
  let required {α : Type} (read : Draft → Except DocumentProblem α) (place : Nat) :
      Except DocumentProblem α := do
    match ← itemAt items closed place with
    | some item => read item
    | none => .error .mismatch
  let name ← required Draft.asString 0
  let type ← match ← itemAt items closed 1 with
    | some item => item.asString
    | none => .ok ""
  let address ← required Draft.asString 2
  let running ← required Draft.asBool 3
  let ports ← match ← itemAt items closed 4 with
    | some item => readPorts item
    | none => .ok []
  if closed && items.length ≤ 5 then .ok { name, type, address, running, ports }
  else .error .malformed

def ofDraft (draft : Draft) : Except DocumentProblem Component :=
  match draft with
  | .record members closed => do
    let fields ← members.foldlM (fun fields member => fields.read member.1 member.2) ({} : Fields)
    if !closed then .error .malformed
    else
      match fields.component? with
      | some component => .ok component
      | none => .error .mismatch
  | .list items closed => ofList items closed
  | _ => .error draft.rejection

def ofJson? (json : Json) : Option Component :=
  (ofDraft (Draft.ofJson json)).toOption

def toJson (component : Component) : Json :=
  Json.object [("name", .str component.name), ("type", .str component.type),
    ("address", .str component.address), ("running", .bool component.running),
    ("ports", .arr (component.ports.map .nat))]

end Component
end CoreWatch
