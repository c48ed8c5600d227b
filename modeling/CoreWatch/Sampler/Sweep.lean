import CoreWatch.Containers.Basic
import CoreWatch.Containers.Usage
import CoreWatch.SelfMetrics
import CoreWatch.Time.Span
import Std.Data.ExtTreeMap

set_option autoImplicit false

namespace CoreWatch

structure Sampler where
  usages : Std.ExtTreeMap String Container.Usage
  /-- The processor counters with which the next ones are compared. -/
  counters : Std.ExtTreeMap String Container.CpuCounters
  tally : Tally

namespace Sampler

def empty : Sampler :=
  ⟨∅, ∅, .zero⟩

structure Settings where
  interval : Span := .ofSeconds 10
  port : Nat := 8080
  bindHost : String := "0.0.0.0"
  shutdownGrace : Span := .ofSeconds 5
deriving DecidableEq, Repr

inductive Call (α : Type)
  /-- It is answered, and the sweep may be told to stop meanwhile. -/
  | answered (result : Except RuntimeFault α) (stop : Bool)
  /-- The sweep is told to stop, and no answer comes. -/
  | abandoned

structure Host where
  list : Call (List Container)
  stats : String → Call Json

inductive Question
  | list
  | stats (id : String)
deriving DecidableEq, Repr

def Question.toText : Question → String
  | .list => "list"
  | .stats id => "stats " ++ id

inductive SweepFault
  | cancelled
  | host (fault : RuntimeFault)
deriving DecidableEq, Repr

def SweepFault.message : SweepFault → String
  | cancelled => "sweep cancelled"
  | host fault => fault.message

structure Sweep where
  sampler : Sampler
  /-- Whether the sweep has been told to stop. -/
  stopped : Bool
  questions : List Question
  sampled : Nat

def retain (sampler : Sampler) (topology : Topology) : Sampler :=
  { sampler with
    usages := sampler.usages.filter fun name _ => topology.isRunning name
    counters := sampler.counters.filter fun name _ => topology.isRunning name }

def record (sampler : Sampler) (name id : String) (stats : Json) (now : Int) : Sampler :=
  let (usage, counters) := Container.Usage.ofStats stats id name sampler.counters[name]? now
  { sampler with
    usages := sampler.usages.insert name usage
    counters := match counters with
      | some counters => sampler.counters.insert name counters
      | none => sampler.counters }

/-- The id of the container with a name; of several the last one counts. -/
def idOf? (containers : List Container) (name : String) : Option String :=
  (containers.findRev? (·.name == name)).map (·.id)

/--
Asks for the containers of the named components one after another. The clock tells when the
statistics of each component are taken in.
-/
def Sweep.visit (host : Host) (containers : List Container) (clock : String → Int) :
    List String → Sweep → Sweep × Option SweepFault
  | [], sweep => (sweep, none)
  | name :: names, sweep =>
    match idOf? containers name with
    | none => visit host containers clock names sweep
    | some id =>
      if sweep.stopped then (sweep, some .cancelled)
      else
        let asked := { sweep with questions := sweep.questions ++ [.stats id] }
        match host.stats id with
        | .abandoned => (asked, some .cancelled)
        | .answered (.error _) stop =>
          visit host containers clock names { asked with stopped := stop }
        | .answered (.ok stats) stop =>
          visit host containers clock names
            { asked with
              stopped := stop
              sampler := asked.sampler.record name id stats (clock name)
              sampled := asked.sampled + 1 }

structure SweepResult where
  sampler : Sampler
  stopped : Bool
  questions : List Question
  outcome : Except SweepFault Nat

def Sweep.finish (sweep : Sweep) : SweepResult :=
  let tally := (sweep.sampler.tally.bump .samplerSweeps).set .containersSampled sweep.sampled
  ⟨{ sweep.sampler with tally }, sweep.stopped, sweep.questions, .ok sweep.sampled⟩

def Sweep.fail (sweep : Sweep) (fault : SweepFault) : SweepResult :=
  ⟨sweep.sampler, sweep.stopped, sweep.questions, .error fault⟩

/-- Samples every running component once; `stopped` when the sweep is to stop from the start. -/
def sweep (sampler : Sampler) (topology : Topology) (host : Host) (stopped : Bool)
    (clock : String → Int) : SweepResult :=
  let start : Sweep := ⟨sampler.retain topology, stopped, [], 0⟩
  if topology.running.isEmpty then start.finish
  else if stopped then start.fail .cancelled
  else
    let asked := { start with questions := [.list] }
    match host.list with
    | .abandoned => asked.fail .cancelled
    | .answered (.error fault) stop => { asked with stopped := stop }.fail (.host fault)
    | .answered (.ok containers) stop =>
      let asked := { asked with stopped := stop }
      match Sweep.visit host containers clock topology.runningNames asked with
      | (sweep, none) => sweep.finish
      | (sweep, some fault) => sweep.fail fault

end Sampler
end CoreWatch
