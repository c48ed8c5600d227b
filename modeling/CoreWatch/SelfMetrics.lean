import CoreWatch.Exposition.Basic

set_option autoImplicit false

namespace CoreWatch

/-- A measure of the monitor's own work, in ascending order of names. -/
inductive Meter
  | collectorStartFailures
  | collectorStarts
  | collectorStops
  | collectorsActive
  | componentsRunning
  | containersSampled
  | probeFailures
  | probeLatency
  | reconciliations
  | samplerSweeps
  | topologyErrors
  | fetchErrors
  | fetchLatency
deriving DecidableEq, Repr

inductive MeterKind
  | counter
  | gauge
  /-- Observations of a quantity, of which a tally keeps the number. -/
  | histogram
deriving DecidableEq, Repr

namespace Meter

def all : List Meter :=
  [collectorStartFailures, collectorStarts, collectorStops, collectorsActive, componentsRunning,
    containersSampled, probeFailures, probeLatency, reconciliations, samplerSweeps, topologyErrors,
    fetchErrors, fetchLatency]

def name : Meter → String
  | collectorStartFailures => "nfmon_collector_start_failures_total"
  | collectorStarts => "nfmon_collector_starts_total"
  | collectorStops => "nfmon_collector_stops_total"
  | collectorsActive => "nfmon_collectors_active"
  | componentsRunning => "nfmon_components_running"
  | containersSampled => "nfmon_containers_sampled"
  | probeFailures => "nfmon_probe_failures_total"
  | probeLatency => "nfmon_probe_latency_seconds"
  | reconciliations => "nfmon_reconciliations_total"
  | samplerSweeps => "nfmon_sampler_sweep_seconds"
  | topologyErrors => "nfmon_topology_errors_total"
  | fetchErrors => "nfmon_upstream_fetch_errors_total"
  | fetchLatency => "nfmon_upstream_fetch_latency_seconds"

def help : Meter → String
  | collectorStartFailures =>
    "Collector starts that failed, usually because the port could not be bound"
  | collectorStarts => "Collectors started"
  | collectorStops => "Collectors cancelled"
  | collectorsActive => "Number of fetch-and-reexpose collectors currently running"
  | componentsRunning => "Running components in the latest topology snapshot"
  | containersSampled => "Containers sampled in the latest sweep"
  | probeFailures => "Health probes that did not report the component up"
  | probeLatency => "Health probe round-trip time"
  | reconciliations => "Number of reconcile passes run by the orchestrator"
  | samplerSweeps => "Time spent sampling container resources for all running components"
  | topologyErrors => "Topology snapshots that could not be read"
  | fetchErrors => "Upstream fetches that failed"
  | fetchLatency => "Time spent fetching upstream metrics endpoints"

def kind : Meter → MeterKind
  | collectorsActive => .gauge
  | componentsRunning => .gauge
  | containersSampled => .gauge
  | probeLatency => .histogram
  | samplerSweeps => .histogram
  | fetchLatency => .histogram
  | _ => .counter

end Meter

namespace MeterKind

def name : MeterKind → String
  | counter => "counter"
  | gauge => "gauge"
  | histogram => "histogram"

end MeterKind

def Meter.announcement (meter : Meter) : List String :=
  ["# HELP " ++ meter.name ++ " " ++ meter.help, "# TYPE " ++ meter.name ++ " " ++ meter.kind.name]

structure Tally where
  count : Meter → Nat

namespace Tally

def zero : Tally :=
  ⟨fun _ => 0⟩

def add (tally : Tally) (meter : Meter) (n : Nat) : Tally :=
  ⟨fun m => if m = meter then tally.count m + n else tally.count m⟩

def bump (tally : Tally) (meter : Meter) : Tally :=
  tally.add meter 1

def set (tally : Tally) (meter : Meter) (n : Nat) : Tally :=
  ⟨fun m => if m = meter then n else tally.count m⟩

def plus (left right : Tally) : Tally :=
  ⟨fun m => left.count m + right.count m⟩

/-- What has been counted since an earlier tally, without what stayed as it was. -/
def since (now earlier : Tally) : List (Meter × Nat) :=
  Meter.all.filterMap fun meter =>
    if meter.kind = .gauge || now.count meter = earlier.count meter then none
    else some (meter, now.count meter - earlier.count meter)

@[simp]
theorem count_zero (meter : Meter) : zero.count meter = 0 :=
  rfl

@[simp]
theorem count_add (tally : Tally) (meter other : Meter) (n : Nat) :
    (tally.add meter n).count other =
      if other = meter then tally.count other + n else tally.count other :=
  rfl

@[simp]
theorem count_set (tally : Tally) (meter other : Meter) (n : Nat) :
    (tally.set meter n).count other = if other = meter then n else tally.count other :=
  rfl

@[simp]
theorem count_plus (left right : Tally) (meter : Meter) :
    (left.plus right).count meter = left.count meter + right.count meter :=
  rfl

end Tally
end CoreWatch
