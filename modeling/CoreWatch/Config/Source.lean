import CoreWatch.Config.Toml.File
import CoreWatch.Config.YamlFile
import CoreWatch.Json.Draft
import CoreWatch.Text.Bytes

set_option autoImplicit false

namespace CoreWatch.Config

abbrev Environment := List (String × String)

namespace Environment

def get? (environment : Environment) (name : String) : Option String :=
  (environment.find? (·.1 == name)).map (·.2)

/-- What the names of variables that make settings start with, in any letter case. -/
def marker : String := "nfmon_"

def settings (environment : Environment) : Settings :=
  .ofEntries <| environment.filterMap fun (name, value) =>
    let name := Text.lower name.toList
    if marker.toList.isPrefixOf name then
      some (String.ofList (name.drop marker.length), .ofWord value)
    else none

end Environment

/-- A JSON value as a setting; a whole number that is too large becomes a real one. -/
def Setting.ofJson : Json → Setting
  | .null => .null
  | .bool value => .bool value
  | .int value => if isInt64 value then .int value else .real (.ofNat value.toNat)
  | .real value => .real value
  | .str value => .text value
  | .arr _ => .compound
  | .obj _ => .compound

namespace JsonFile

def read? (text : List Char) : Option Settings :=
  match Json.read? (String.ofList text) with
  | some (.obj members) => some (members.map fun (key, value) => (key, .ofJson value))
  | _ => none

end JsonFile

inductive FileFormat
  | yaml
  | json
  | toml
deriving DecidableEq, Repr

namespace FileFormat

/-- What follows the last dot in the name of a file; a dot in front does not count. -/
def suffix (path : String) : String :=
  let name := (path.toList.reverse.takeWhile (· != '/')).reverse
  let after := (name.reverse.takeWhile (· != '.')).reverse
  if after.length + 1 < name.length then String.ofList after else ""

def ofPath? (path : String) : Option FileFormat :=
  match suffix path with
  | "yaml" => some yaml
  | "yml" => some yaml
  | "json" => some json
  | "toml" => some toml
  | _ => none

def read? : FileFormat → List Char → Option Settings
  | yaml => YamlFile.read?
  | json => JsonFile.read?
  | toml => Toml.read?

end FileFormat

def fileText (contents : List UInt8) : List Char :=
  match Text.decodeReplacing contents with
  | '\uFEFF' :: rest => rest
  | text => text

def fileSettings? (path : String) (contents : Option (List UInt8)) : Option Settings := do
  let format ← FileFormat.ofPath? path
  return .ofEntries (← format.read? (fileText (← contents)))

end CoreWatch.Config
