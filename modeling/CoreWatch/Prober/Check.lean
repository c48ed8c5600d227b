import CoreWatch.Text.Ascii
import CoreWatch.Time.Span
import CoreWatch.Topology.Component

set_option autoImplicit false

namespace CoreWatch.Prober

inductive CheckKind
  /-- A page is asked for. -/
  | http
  /-- A connection is opened. -/
  | tcp
deriving DecidableEq, Repr

def CheckKind.name : CheckKind → String
  | http => "http"
  | tcp => "tcp"

def CheckKind.ofName? (name : String) : Option CheckKind :=
  [http, tcp].find? (·.name == name)

structure Check where
  component : String
  kind : CheckKind
  /-- A full address for pages, a host and a port for connections. -/
  endpoint : String
  timeout : Span
deriving DecidableEq, Repr

def Check.toJson (check : Check) : Json :=
  .object [
    ("component", .str check.component),
    ("check_type", .str check.kind.name),
    ("endpoint", .str check.endpoint),
    ("timeout_ms", .nat check.timeout.millis)]

structure CheckPolicy where
  /-- Where functions of the control plane answer about their health. -/
  managementPort : Nat := 8080
  /-- Where a web front end answers that tells no port. -/
  webPort : Nat := 80
  timeout : Span := .ofSeconds 5
deriving DecidableEq, Repr

def webMarkers : List String :=
  ["webui", "grafana"]

def databaseMarkers : List String :=
  ["mongo", "redis", "mysql"]

def controlPlaneMarkers : List String :=
  ["amf", "smf", "nrf", "pcf", "mme", "hss", "ausf", "udm", "udr", "nssf", "bsf"]

/-- Whether a name holds one of the markers, in any letter case. -/
def isNamed (markers : List String) (name : String) : Bool :=
  markers.any fun marker => Text.hasMarker marker name

def hostAndPort (address : String) (port : Nat) : String :=
  address ++ ":" ++ toString port

namespace CheckPolicy

private def page (policy : CheckPolicy) (component : Component) (port : Nat) (path : String) :
    Check :=
  ⟨component.name, .http, "http://" ++ hostAndPort component.address port ++ path, policy.timeout⟩

private def connection? (policy : CheckPolicy) (component : Component) : Option Check :=
  component.ports.head?.map fun port =>
    ⟨component.name, .tcp, hostAndPort component.address port, policy.timeout⟩

/-- The check of a component by its name; nothing when there is nowhere to connect to. -/
def check? (policy : CheckPolicy) (component : Component) : Option Check :=
  if isNamed webMarkers component.name then
    some (policy.page component (component.ports.headD policy.webPort) "/")
  else if isNamed databaseMarkers component.name then policy.connection? component
  else if isNamed controlPlaneMarkers component.name then
    some (policy.page component policy.managementPort "/health")
  else policy.connection? component

theorem component_check? {policy : CheckPolicy} {component : Component} {check : Check}
    (derived : policy.check? component = some check) : check.component = component.name := by
  have connected (found : policy.connection? component = some check) :
      check.component = component.name := by
    rw [connection?, Option.map_eq_some_iff] at found
    obtain ⟨port, -, rfl⟩ := found
    rfl
  unfold check? at derived
  split at derived
  · cases derived
    rfl
  split at derived
  · exact connected derived
  split at derived
  · cases derived
    rfl
  · exact connected derived

end CheckPolicy
end CoreWatch.Prober
