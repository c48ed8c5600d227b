import CoreWatch.Prober.History
import CoreWatch.SelfMetrics
import CoreWatch.Topology.Basic

set_option autoImplicit false

namespace CoreWatch

structure Prober where
  histories : Std.ExtTreeMap String Prober.History
  tally : Tally

namespace Prober

structure Settings where
  interval : Span := .ofSeconds 15
  port : Nat := 8081
  bindHost : String := "0.0.0.0"
  shutdownGrace : Span := .ofSeconds 5
  policy : CheckPolicy := {}
deriving DecidableEq, Repr

def empty : Prober :=
  ⟨∅, .zero⟩

def historyOf (prober : Prober) (component : String) : History :=
  prober.histories[component]?.getD (.unknown component)

def retain (prober : Prober) (topology : Topology) : Prober :=
  { prober with histories := prober.histories.filter fun name _ => topology.isRunning name }

/-- Takes in a running component without a check; what is known of it stays. -/
def enroll (prober : Prober) (component : String) : Prober :=
  { prober with histories := prober.histories.insert component (prober.historyOf component) }

def record (prober : Prober) (check : Check) (result : ProbeResult) (now : Int) : Prober :=
  let tally := prober.tally.bump .probeLatency
  { histories := prober.histories.insert check.component
      ((prober.historyOf check.component).record check result now)
    tally := if result.condition.isFailure then tally.bump .probeFailures else tally }

def checks (policy : CheckPolicy) (topology : Topology) : List Check :=
  topology.running.filterMap policy.check?

/-- Probes every running component once; `probe` is what each check shows. -/
def sweep (prober : Prober) (policy : CheckPolicy) (topology : Topology)
    (probe : Check → ProbeResult) (now : Int) : Prober :=
  let idle := topology.running.filter fun component => (policy.check? component).isNone
  let enrolled := idle.foldl (fun prober component => prober.enroll component.name)
    (prober.retain topology)
  (checks policy topology).foldl
    (fun prober check => prober.record check (probe check) now) enrolled

def summary (prober : Prober) : Summary :=
  .ofHistories prober.histories.values

end Prober
end CoreWatch
