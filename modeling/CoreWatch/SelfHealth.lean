import CoreWatch.Bits
import CoreWatch.Health
import CoreWatch.Time.Moment
import Std.Data.ExtTreeMap

set_option autoImplicit false

namespace CoreWatch

structure HealthReport where
  status : Health
  message : Option String
  checkedAt : Int
deriving DecidableEq, Repr

structure SelfHealth where
  reports : Std.ExtTreeMap String HealthReport
  ready : Bool

inductive Part
  | orchestrator
  | topology
  | sampler
  | prober
deriving DecidableEq, Repr

namespace Part

def all : List Part :=
  [orchestrator, topology, sampler, prober]

def name : Part → String
  | orchestrator => "orchestrator"
  | topology => "topology"
  | sampler => "resource_sampler"
  | prober => "health_prober"

end Part

namespace HealthReport

def ofStatus (status : Health) (message : Option String) (now : Moment) : HealthReport :=
  ⟨status, message, now.seconds⟩

def toJson (report : HealthReport) : Json :=
  .object <|
    [("status", .str report.status.name), ("last_check_timestamp", .int report.checkedAt)] ++
      Json.optionalMember "message" .str report.message

/-- A status stands as a word, or as the only key of a record. -/
private def readStatus? : Json → Option Health
  | .str name => Health.ofName? name
  | .obj [(name, .null)] => Health.ofName? name
  | _ => none

private def readMessage? : Json → Option (Option String)
  | .null => some none
  | .str message => some (some message)
  | _ => none

/-- The members of a report; the message may be missing, except where all stand in a list. -/
private def parts? : Json → Option (Json × Json × Json)
  | .arr [status, message, checkedAt] => some (status, message, checkedAt)
  | .obj members => do
    let json := Json.obj members
    return (← json.get? "status", (json.get? "message").getD .null,
      ← json.get? "last_check_timestamp")
  | _ => none

def ofJson? (json : Json) : Option HealthReport := do
  let (status, message, checkedAt) ← parts? json
  let checkedAt ← checkedAt.int?
  if Bits.holds 64 checkedAt then
    return ⟨← readStatus? status, ← readMessage? message, checkedAt⟩
  else none

end HealthReport

namespace SelfHealth

def empty : SelfHealth :=
  ⟨∅, false⟩

def update (health : SelfHealth) (name : String) (report : HealthReport) : SelfHealth :=
  { health with reports := health.reports.insert name report }

def setHealthy (health : SelfHealth) (name : String) (now : Moment) : SelfHealth :=
  health.update name (.ofStatus .healthy none now)

/-- A part starts out healthy. -/
def register (health : SelfHealth) (name : String) (now : Moment) : SelfHealth :=
  health.setHealthy name now

def setDegraded (health : SelfHealth) (name message : String) (now : Moment) : SelfHealth :=
  health.update name (.ofStatus .degraded (some message) now)

def setUnhealthy (health : SelfHealth) (name message : String) (now : Moment) : SelfHealth :=
  health.update name (.ofStatus .unhealthy (some message) now)

def setReady (health : SelfHealth) (ready : Bool) : SelfHealth :=
  { health with ready }

def report? (health : SelfHealth) (name : String) : Option HealthReport :=
  health.reports[name]?

def status (health : SelfHealth) : Health :=
  .worst (health.reports.values.map (·.status))

def unreadiness? (health : SelfHealth) : Option String :=
  if !health.ready then some "Monitor not yet initialized"
  else if health.status = .unhealthy then some "Subsystem unhealthy"
  else none

def isReady (health : SelfHealth) : Bool :=
  health.unreadiness?.isNone

def reportsJson (health : SelfHealth) : Json :=
  .obj (health.reports.toList.map fun (name, report) => (name, report.toJson))

def toJson (health : SelfHealth) : Json :=
  .object [("status", .str health.status.name), ("components", health.reportsJson)]

def readinessJson (health : SelfHealth) : Json :=
  .object <| ("ready", .bool health.isReady) ::
    Json.optionalMember "reason" .str health.unreadiness?

end SelfHealth
end CoreWatch
