import CoreWatch.Collector.Fetch
import CoreWatch.NetworkFunction.Classify
import CoreWatch.Scrape.Document

set_option autoImplicit false

namespace CoreWatch

structure Fleet.Settings where
  /-- The port under which the network functions serve their own metrics. -/
  sourcePort : Nat := 9090
  /-- How long stopped collectors are waited for. -/
  stopGrace : Span := .ofSeconds 6
  scrape : Scrape.Settings := {}
deriving DecidableEq, Repr

structure Fleet.Requirement where
  function : NetworkFunction
  address : String
deriving DecidableEq, Repr

structure Fleet.Launch where
  /-- The port that it holds. -/
  port : Nat
  settings : Collector.Settings
  /-- Whether it ends in time once it is stopped. -/
  drains : Bool := true

/-- Answers each request for a collector with the collector, or with what went wrong. -/
abbrev Fleet.Launcher := Collector.Spec → Except String Fleet.Launch

structure Fleet.Member where
  /-- Tells collectors apart that were launched for one component; they count up. -/
  serial : Nat
  collector : Collector
  drains : Bool

structure Fleet where
  settings : Fleet.Settings
  members : Std.ExtTreeMap String Fleet.Member
  /-- The topology of the latest pass. -/
  topology : Topology
  /-- Whether the scrape document could not be written when that was last tried. -/
  dirty : Bool
  /-- How many collectors have been launched. -/
  launches : Nat
  /-- The serial numbers of the collectors that were stopped, in that order. -/
  stopped : List Nat
  /-- Whether the whole monitor has been told to stop. -/
  cancelled : Bool
  tally : Tally

namespace Fleet

def empty (settings : Settings) : Fleet :=
  { settings
    members := ∅
    topology := .empty
    dirty := false
    launches := 0
    stopped := []
    cancelled := false
    tally := .zero }

def Member.spec (member : Member) : Collector.Spec :=
  member.collector.spec

def Member.meets (member : Member) (requirement : Requirement) : Bool :=
  member.spec.function = requirement.function && member.spec.address = requirement.address

def size (fleet : Fleet) : Nat :=
  fleet.members.size

def member? (fleet : Fleet) (component : String) : Option Member :=
  fleet.members[component]?

def specs (fleet : Fleet) : List Collector.Spec :=
  fleet.members.values.map (·.spec)

def ports (fleet : Fleet) : List Nat :=
  fleet.specs.map (·.port)

/-- How many collectors have been told to stop. -/
def cancellations (fleet : Fleet) : Nat :=
  fleet.stopped.length + if fleet.cancelled then fleet.size else 0

def fetch (fleet : Fleet) (component : String) (now : Moment)
    (exchange : Collector.Exchange) : Fleet :=
  match fleet.member? component with
  | none => fleet
  | some member =>
    let collector := member.collector.fetch now exchange
    { fleet with members := fleet.members.insert component { member with collector } }

def cancel (fleet : Fleet) : Fleet :=
  { fleet with cancelled := true }

/-- The running components of a topology that are network functions. -/
def required (topology : Topology) : Std.ExtTreeMap String Requirement :=
  topology.components.filterMap fun _ component =>
    if component.running then
      component.function?.map fun function => ⟨function, component.address⟩
    else none

def maxPort : Nat := 65535

/-- The first port from one on that is not used; the largest one if there is none. -/
def freePort (used : List Nat) (port : Nat) : Nat :=
  if port < maxPort && used.contains port then freePort used (port + 1) else port
termination_by maxPort - port
decreasing_by
  simp only [Bool.and_eq_true, decide_eq_true_eq] at *
  omega

def assignPort (function : NetworkFunction) (used : List Nat) : Nat :=
  freePort used function.basePort

def targets (fleet : Fleet) : List Scrape.Target :=
  let deployment := some fleet.topology.deployment
  let scrape := fleet.settings.scrape
  (fleet.specs.map fun spec =>
    scrape.collectorTarget spec (fleet.topology.get? spec.component) deployment) ++
    scrape.ownTargets deployment

def document (fleet : Fleet) : Scrape.Document :=
  ⟨fleet.targets, some fleet.topology.deployment, fleet.settings.scrape.monitorLabel⟩

end Fleet
end CoreWatch
