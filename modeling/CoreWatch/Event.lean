import CoreWatch.Json.Basic
import CoreWatch.NetworkFunction.Basic

set_option autoImplicit false

namespace CoreWatch

inductive StopReason
  | changed
  | notRunning
deriving DecidableEq, Repr

def StopReason.message : StopReason → String
  | changed => "component changed"
  | notRunning => "component no longer running"

inductive Event
  | monitorStarted (components : Nat)
  | monitorShutdown (reason : String)
  | collectorStarted (component : String) (function : NetworkFunction) (port : Nat)
      (source : String)
  | collectorStopped (component : String) (function : NetworkFunction) (reason : StopReason)
  | collectorStartFailed (component : String) (function : NetworkFunction) (error : String)
  | topologyChanged (started stopped active : Nat)
  | scrapeConfigWritten (path : String) (targets : Nat)
  | scrapeConfigFailed (path : String) (targets : Nat)
  /-- A warning that is no step in the life of anything. -/
  | warned (message : String)
deriving DecidableEq, Repr

def monitorVersion : String := "0.1.0"

namespace Event

private def started (component : String) (function : NetworkFunction) : List (String × Json) :=
  [("component", .str component), ("nf_type", .str function.name)]

def undrained : Event :=
  warned "Server did not drain within grace period, dropping connections"

/-- The members of an event, apart from the instance that logs it. -/
def toMembers : Event → List (String × Json)
  | monitorStarted components =>
    [("event", .str "monitor_started"), ("version", .str monitorVersion),
      ("components", .nat components)]
  | monitorShutdown reason => [("event", .str "monitor_shutdown"), ("reason", .str reason)]
  | collectorStarted component function port source =>
    ("event", .str "collector_started") :: started component function ++
      [("port", .nat port), ("upstream", .str source)]
  | collectorStopped component function reason =>
    ("event", .str "collector_stopped") :: started component function ++
      [("reason", .str reason.message)]
  | collectorStartFailed component function error =>
    ("event", .str "collector_start_failed") :: started component function ++
      [("error", .str error)]
  | topologyChanged started stopped active =>
    [("event", .str "topology_changed"), ("started", .nat started), ("stopped", .nat stopped),
      ("active", .nat active)]
  | scrapeConfigWritten path targets =>
    [("event", .str "scrape_config_written"), ("path", .str path), ("targets", .nat targets)]
  | scrapeConfigFailed path targets =>
    [("event", .str "scrape_config_failed"), ("path", .str path), ("targets", .nat targets)]
  | warned message => [("warn", .str message)]

def toJson (instanceName : String) (event : Event) : Json :=
  .object (("instance", .str instanceName) :: event.toMembers)

def isWarning : Event → Bool
  | warned _ => true
  | _ => false

end Event
end CoreWatch
