import CoreWatch.Config.Setting
import CoreWatch.Yaml.Document

set_option autoImplicit false

namespace CoreWatch.Config.YamlFile

/-- A key as text; null, lists and records are no keys. -/
def keyText? : Yaml.Value → Option String
  | .bool value => some (if value then "true" else "false")
  | .int value => some (toString value)
  | .real word => some word
  | .text value => some value
  | _ => none

mutual

/-- Whether all that a value holds can be a setting. -/
def isHeld : Yaml.Value → Bool
  | .real word => (Double.read? word.toList).isSome
  | .list items => areHeld items
  | .record members => areHeldMembers members
  | _ => true

def areHeld : List Yaml.Value → Bool
  | [] => true
  | value :: values => isHeld value && areHeld values

def areHeldMembers : List (Yaml.Value × Yaml.Value) → Bool
  | [] => true
  | (key, value) :: members => (keyText? key).isSome && isHeld value && areHeldMembers members

end

/-- A value as a setting; infinite numbers and the like have no form in which they can be one. -/
def ofValue? (value : Yaml.Value) : Option Setting :=
  match value with
  | .null => some .null
  | .invalid => some .null
  | .bool value => some (.bool value)
  | .int value => some (.int value)
  | .real word => (Double.read? word.toList).map Setting.real
  | .text value => some (.text value)
  | .list _ => if isHeld value then some .compound else none
  | .record _ => if isHeld value then some .compound else none

/-- Reads a whole file; one without any document has no settings. -/
def read? (text : List Char) : Option Settings :=
  match Yaml.documents? text with
  | some [] => some []
  | some [.record members] =>
    members.mapM fun (key, value) => do return (← keyText? key, ← ofValue? value)
  | _ => none

end CoreWatch.Config.YamlFile
