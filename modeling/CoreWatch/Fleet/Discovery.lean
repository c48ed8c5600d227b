import CoreWatch.Fleet.Reconcile
import CoreWatch.SelfHealth

set_option autoImplicit false

namespace CoreWatch

/-- Why a topology cannot be read, the outermost cause first. -/
abbrev SnapshotFault := List String

structure Discovery where
  fleet : Fleet
  /-- The topology that the sampler and the prober go by. -/
  published : Topology
  health : SelfHealth

namespace Discovery

def failedMessage (components : List String) : String :=
  "failed to start collectors: " ++ String.intercalate ", " components

def reportPass (health : SelfHealth) (outcome : Fleet.Outcome) (now : Moment) : SelfHealth :=
  if outcome.failed.isEmpty then health.setHealthy Part.orchestrator.name now
  else health.setDegraded Part.orchestrator.name (failedMessage outcome.failed) now

structure Tick where
  discovery : Discovery
  events : List Event
  /-- The scrape document that was to be written. -/
  attempt : Option Scrape.Document

def tick (discovery : Discovery) (launcher : Fleet.Launcher) (write : Scrape.Document → Bool)
    (now : Moment) (snapshot : Except SnapshotFault Topology) : Tick :=
  match snapshot with
  | .ok topology =>
    let done := discovery.fleet.reconcile launcher write now topology
    let health := discovery.health.setHealthy Part.topology.name now
    { discovery :=
        { fleet := done.fleet
          published := topology
          health := reportPass health done.outcome now }
      events := done.events
      attempt := done.attempt }
  | .error causes =>
    let fleet := discovery.fleet
    { discovery :=
        { discovery with
          fleet := { fleet with tally := fleet.tally.bump .topologyErrors }
          health := discovery.health.setDegraded Part.topology.name
            (String.intercalate ": " causes) now }
      events := [.warned "Failed to read topology, keeping current collectors"]
      attempt := none }

end Discovery
end CoreWatch
