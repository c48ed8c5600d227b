import CoreWatch.Text.Ascii
import CoreWatch.Topology.Component
import Std.Data.ExtTreeMap

set_option autoImplicit false

namespace CoreWatch

inductive Deployment
  | fourG
  | fiveG
  | mixed
deriving DecidableEq, Repr

namespace Deployment

def name : Deployment → String
  | fourG => "4G"
  | fiveG => "5G"
  | mixed => "MIXED"

def ofName? (name : String) : Option Deployment :=
  [fourG, fiveG, mixed].find? (·.name == name)

def fourGMarkers : List String :=
  ["mme", "hss", "sgwc", "sgwu", "pcrf"]

def fiveGMarkers : List String :=
  ["amf", "nrf", "udm", "udr", "ausf", "nssf", "bsf", "pcf"]

def isMarked (markers : List String) (name : String) : Bool :=
  markers.any fun marker => Text.hasMarker marker name

/-- The generation that component names tell; signs of both or of none make it mixed. -/
def detect (names : List String) : Deployment :=
  match names.any (isMarked fourGMarkers), names.any (isMarked fiveGMarkers) with
  | true, false => fourG
  | false, true => fiveG
  | _, _ => mixed

end Deployment

structure Topology where
  components : Std.ExtTreeMap String Component

namespace Topology

def empty : Topology := ⟨∅⟩

/-- Of components with one name the last stays. -/
def ofComponents (components : List Component) : Topology :=
  ⟨components.foldl (fun known component => known.insert component.name component) ∅⟩

def get? (topology : Topology) (name : String) : Option Component :=
  topology.components[name]?

def names (topology : Topology) : List String :=
  topology.components.keys

def deployment (topology : Topology) : Deployment :=
  .detect topology.names

def running (topology : Topology) : List Component :=
  topology.components.values.filter (·.running)

def runningNames (topology : Topology) : List String :=
  topology.running.map (·.name)

def isRunning (topology : Topology) (name : String) : Bool :=
  match topology.get? name with
  | some component => component.running
  | none => false

def size (topology : Topology) : Nat :=
  topology.components.size

def isEmpty (topology : Topology) : Bool :=
  topology.components.isEmpty

def toJson (topology : Topology) : Json :=
  .object [
    ("deployment_type", .str topology.deployment.name),
    ("components", .obj (topology.components.toList.map fun (name, component) =>
      (name, component.toJson))),
    ("running", .strings topology.runningNames),
    ("len", .nat topology.size),
    ("is_empty", .bool topology.isEmpty)]

end Topology

/-- Role tags by the marker in a name, of which the first one found counts. -/
def typeTags : List (String × String) :=
  [("sgwc", "4G-Control-Plane"),
   ("sgwu", "4G-User-Plane"),
   ("pcrf", "4G-Policy"),
   ("mme", "4G-Control-Plane"),
   ("hss", "4G-Database"),
   ("amf", "5G-Control-Plane"),
   ("smf", "5G-Control-Plane"),
   ("upf", "5G-User-Plane"),
   ("nrf", "5G-Service-Discovery"),
   ("udm", "5G-User-Management"),
   ("udr", "5G-Database"),
   ("ausf", "5G-Authentication"),
   ("pcf", "5G-Policy"),
   ("nssf", "5G-Slicing"),
   ("bsf", "5G-Binding-Support"),
   ("scp", "5G-Service-Communication-Proxy"),
   ("webui", "Web-Interface"),
   ("mongo", "Database"),
   ("grafana", "Monitoring"),
   ("srsenb", "4G-Radio-Access-Network"),
   ("srsgnb", "5G-Radio-Access-Network"),
   ("srsue", "User-Equipment")]

/-- The role tag of a component that has nothing but a name. -/
def Component.typeFor (name : String) : String :=
  match typeTags.find? fun tag => Text.hasMarker tag.1 name with
  | some tag => tag.2
  | none => "Unknown"

end CoreWatch
