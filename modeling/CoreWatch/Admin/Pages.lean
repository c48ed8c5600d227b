import CoreWatch.Exposition.Family
import CoreWatch.Fleet.Status
import CoreWatch.SelfHealth

set_option autoImplicit false

namespace CoreWatch

/-- The lines of a meter; of observations there is only their number. -/
private def Tally.lines (tally : Tally) (meter : Meter) : List String :=
  let name := if meter.kind = .histogram then meter.name ++ "_count" else meter.name
  meter.announcement ++ [name ++ " " ++ toString (tally.count meter)]

def Tally.encode (tally : Tally) : String :=
  String.join ((Meter.all.flatMap tally.lines).map (· ++ "\n"))

namespace Admin

open Http

/-- Parts that are unhealthy make the monitor unavailable. -/
def healthPage (health : SelfHealth) : Response :=
  .ofJson (if health.status = .unhealthy then 503 else 200) health.toJson

def readyPage (health : SelfHealth) : Response :=
  .ofJson (if health.isReady then 200 else 503) health.readinessJson

def metricsPage (tally : Tally) : Response :=
  ⟨200, some Exposition.contentType, .text tally.encode⟩

def targetsJson (fleet : Fleet) : Json :=
  .arr (fleet.targets.map Scrape.Target.toJson)

def statusJson? (fleet : Fleet) (now : Moment) : Option Json :=
  (fleet.status? now).map fun status => status.toJson fleet.settings

def page (fleet : Fleet) (health : SelfHealth) (tally : Tally) (now : Moment) (path : String) :
    Option (Option Response) :=
  match path with
  | "/healthz" => some (healthPage health)
  | "/readyz" => some (readyPage health)
  | "/metrics" => some (metricsPage tally)
  | "/status" => some ((statusJson? fleet now).map (.ofJson 200))
  | "/targets" => some (some (.ofJson 200 (targetsJson fleet)))
  | _ => none

end Admin
end CoreWatch
