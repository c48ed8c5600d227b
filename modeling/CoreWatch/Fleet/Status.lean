import CoreWatch.Collector.Pages
import CoreWatch.Fleet.Basic

set_option autoImplicit false

namespace CoreWatch.Fleet

inductive Issue
  /-- Several collectors hold one port. -/
  | portConflict (port : Nat) (components : List String)
  /-- No collector watches a function that every core of the fifth generation has. -/
  | missingFunction (function : NetworkFunction)
deriving DecidableEq, Repr

def Issue.toJson : Issue → Json
  | portConflict port components =>
    .object [("kind", .str "port_conflict"), ("port", .nat port),
      ("components", .strings components)]
  | missingFunction function =>
    .object [("kind", .str "missing_nf"), ("nf_type", .str function.name)]

/-- The functions that every core of the fifth generation has. -/
def expectedFunctions : List NetworkFunction :=
  [.amf, .smf, .upf]

def holders (fleet : Fleet) (port : Nat) : List String :=
  (fleet.specs.filter (·.port = port)).map (·.component)

/-- The ports that collectors hold, each once, in ascending order. -/
def heldPorts (fleet : Fleet) : List Nat :=
  (Std.ExtTreeMap.ofList (fleet.ports.map fun port => (port, ())) compare).keys

def portConflicts (fleet : Fleet) : List Issue :=
  fleet.heldPorts.filterMap fun port =>
    let holders := fleet.holders port
    if holders.length > 1 then some (.portConflict port holders) else none

def missingFunctions (fleet : Fleet) : List Issue :=
  if fleet.topology.isEmpty || fleet.topology.deployment = .fourG then []
  else
    (expectedFunctions.filter fun function =>
      !fleet.specs.any (·.function = function)).map .missingFunction

def issues (fleet : Fleet) : List Issue :=
  fleet.portConflicts ++ fleet.missingFunctions

def records? (fleet : Fleet) (now : Moment) : Option (List Collector.Record) :=
  fleet.members.values.mapM fun member => member.collector.record? now

def infoJson (settings : Settings) (record : Collector.Record) : Json :=
  let page (path : String) : Json :=
    .str ("http://" ++ settings.scrape.address record.spec.port ++ path)
  .object <| record.toMembers ++
    [("metrics_url", page "/metrics"), ("health_url", page "/health"),
      ("dashboard_url", page "/dashboard"), ("raw_url", page "/debug/raw")]

structure Status where
  deployment : Deployment
  componentCount : Nat
  runningCount : Nat
  records : List Collector.Record
  issues : List Issue

namespace Status

def count (status : Status) (health : Health) : Nat :=
  (status.records.filter (·.health = health)).length

def toJson (status : Status) (settings : Settings) : Json :=
  .object [
    ("deployment_type", .str status.deployment.name),
    ("components_total", .nat status.componentCount),
    ("components_running", .nat status.runningCount),
    ("total_collectors", .nat status.records.length),
    ("healthy", .nat (status.count .healthy)),
    ("degraded", .nat (status.count .degraded)),
    ("unhealthy", .nat (status.count .unhealthy)),
    ("collectors", .arr (status.records.map (infoJson settings))),
    ("issues", .arr (status.issues.map Issue.toJson))]

end Status

def status? (fleet : Fleet) (now : Moment) : Option Status :=
  (fleet.records? now).map fun records =>
    { deployment := fleet.topology.deployment
      componentCount := fleet.topology.size
      runningCount := fleet.topology.running.length
      records
      issues := fleet.issues }

end CoreWatch.Fleet
