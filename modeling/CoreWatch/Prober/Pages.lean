import CoreWatch.Exposition.Family
import CoreWatch.Http.Basic
import CoreWatch.Prober.Sweep
import CoreWatch.Time.Moment

set_option autoImplicit false

namespace CoreWatch.Prober

open Exposition Http

/-- The labels of a component's series; a component that is known adds its own. -/
def seriesLabels (topology : Topology) (history : History) : List Label :=
  let own : List Label :=
    [⟨"component_name", history.component⟩, ⟨"component_id", history.component⟩,
      ⟨"check_type", (history.kind.map CheckKind.name).getD ""⟩, ⟨"endpoint", history.endpoint⟩]
  match topology.get? history.component with
  | none => own
  | some component =>
    own ++ [⟨"component_type", component.type⟩, ⟨"deployment_type", topology.deployment.name⟩]

def measures : List (Measure History) :=
  [⟨"component_health_status", "Component health status (1=up, 0=down)", .gauge,
    fun history => .ofNat (if history.condition = .up then 1 else 0)⟩,
   ⟨"component_health_response_time", "Component health check response time in milliseconds",
    .gauge, (·.responseMillis)⟩,
   ⟨"component_health_success_rate", "Component health check success rate percentage", .gauge,
    (·.successRate)⟩,
   ⟨"component_health_consecutive_failures", "Number of consecutive health check failures", .gauge,
    (.ofNat ·.failuresInARow)⟩,
   ⟨"component_health_total_checks", "Total number of health checks performed", .counter,
    (.ofNat ·.checks)⟩]

def families (prober : Prober) (topology : Topology) : List Family :=
  sheet measures (seriesLabels topology) (prober.histories.values.filter (·.checks > 0))

def metricsPage (prober : Prober) (topology : Topology) : Response :=
  match encode (prober.families topology) with
  | .ok text => ⟨200, some contentType, .text text⟩
  | .error fault => .plain 500 fault.message

def statusPage (prober : Prober) (now : Moment) : Response :=
  .ofJson 200 <| .object [
    ("timestamp", .int now.seconds),
    ("components", .obj (prober.histories.toList.map fun (name, history) =>
      (name, history.toJson))),
    ("summary", prober.summary.toJson)]

def healthPage (prober : Prober) (interval : Span) (now : Moment) : Response :=
  .ofJson 200 <| .object [
    ("status", .str "healthy"),
    ("timestamp", .int now.seconds),
    ("components_monitored", .nat prober.histories.size),
    ("check_interval_seconds", .real interval.toDouble)]

def page (prober : Prober) (interval : Span) (topology : Topology) (now : Moment)
    (path : String) : Option (Option Response) :=
  match path with
  | "/health/metrics" => some (prober.metricsPage topology)
  | "/health/status" => some (prober.statusPage now)
  | "/health" => some (prober.healthPage interval now)
  | _ => none

end CoreWatch.Prober
