import CoreWatch.Collector.Basic
import CoreWatch.Topology.Basic

set_option autoImplicit false

namespace CoreWatch.Scrape

structure Settings where
  /-- Where the document goes; nowhere if there is no path. -/
  path : Option String := none
  /-- The host under which the monitor is known. -/
  advertiseHost : String := "localhost"
  collectorInterval : Span := .ofSeconds 5
  samplerPort : Nat := 8080
  samplerInterval : Span := .ofSeconds 10
  proberPort : Nat := 8081
  proberInterval : Span := .ofSeconds 15
  monitorLabel : String := "nfmon"
deriving DecidableEq, Repr

/-- A job with one target; its labels stand in ascending order of names. -/
structure Target where
  job : String
  target : String
  path : String
  interval : String
  labels : List (String × String)
deriving DecidableEq, Repr

def sorted (labels : List (String × String)) : List (String × String) :=
  (Std.ExtTreeMap.ofList labels compare).toList

/-- The label of a known generation of the core. -/
def deploymentLabel : Option Deployment → List (String × String)
  | none => []
  | some deployment => [("deployment", deployment.name)]

/-- The label of a component that has a role tag. -/
def roleLabel : Option Component → List (String × String)
  | none => []
  | some component =>
    if component.type.isEmpty then [] else [("component_type", component.type)]

namespace Settings

def address (settings : Settings) (port : Nat) : String :=
  settings.advertiseHost ++ ":" ++ toString port

def collectorTarget (settings : Settings) (spec : Collector.Spec) (component : Option Component)
    (deployment : Option Deployment) : Target :=
  { job := spec.component ++ "-real"
    target := settings.address spec.port
    path := "/metrics"
    interval := settings.collectorInterval.toText
    labels := sorted <|
      [("component", spec.component), ("nf_type", spec.function.name), ("source", "nf_endpoint"),
        ("component_ip", spec.address)] ++ roleLabel component ++ deploymentLabel deployment }

def ownTarget (settings : Settings) (deployment : Option Deployment) (job : String)
    (port : Nat) (path : String) (interval : Span) (source : String) : Target :=
  { job
    target := settings.address port
    path
    interval := interval.toText
    labels := sorted (("source", source) :: deploymentLabel deployment) }

def ownTargets (settings : Settings) (deployment : Option Deployment) : List Target :=
  [settings.ownTarget deployment "container-metrics" settings.samplerPort "/container/metrics"
      settings.samplerInterval "container_stats",
    settings.ownTarget deployment "health-checks" settings.proberPort "/health/metrics"
      settings.proberInterval "health_check"]

end Settings

def Target.toJson (target : Target) : Json :=
  .object [
    ("job_name", .str target.job),
    ("target", .str target.target),
    ("metrics_path", .str target.path),
    ("scrape_interval", .str target.interval),
    ("labels", .obj (target.labels.map fun (name, value) => (name, .str value)))]

end CoreWatch.Scrape
