import CoreWatch.Event
import CoreWatch.Fleet.Basic

set_option autoImplicit false

namespace CoreWatch.Fleet

structure Outcome where
  started : List String := []
  stopped : List String := []
  /-- Components whose collector could not be launched; the next pass tries again. -/
  failed : List String := []
deriving DecidableEq, Repr

def Outcome.toJson (outcome : Outcome) : Json :=
  .object [("started", .strings outcome.started), ("stopped", .strings outcome.stopped),
    ("failed", .strings outcome.failed)]

/-- Whether the set of collectors is another one than before. -/
def Outcome.isChange (outcome : Outcome) : Bool :=
  !outcome.started.isEmpty || !outcome.stopped.isEmpty

structure Pass where
  fleet : Fleet
  outcome : Outcome
  /-- The ports that a further collector is not to have. -/
  used : List Nat
  /-- What the launcher has been asked for, in that order. -/
  requests : List Collector.Spec
  events : List Event

def stale (fleet : Fleet) (required : Std.ExtTreeMap String Requirement) :
    List (String × Member) :=
  fleet.members.toList.filter fun (component, member) =>
    match required[component]? with
    | some requirement => !member.meets requirement
    | none => true

/-- The warning about stopped collectors of which some do not end in time. -/
def drainWarnings (members : List Member) : List Event :=
  if members.all (·.drains) then []
  else [.warned "Stopped collectors did not drain within grace period"]

def stop (fleet : Fleet) (component : String) (member : Member) : Fleet :=
  { fleet with
    members := fleet.members.erase component
    stopped := fleet.stopped ++ [member.serial]
    tally := fleet.tally.bump .collectorStops }

def stopAll (fleet : Fleet) (members : List (String × Member)) : Fleet :=
  members.foldl (fun fleet entry => fleet.stop entry.1 entry.2) fleet

def stopStale (fleet : Fleet) (required : Std.ExtTreeMap String Requirement) : Pass :=
  let stale := fleet.stale required
  let remaining := fleet.stopAll stale
  { fleet := remaining
    outcome := { stopped := stale.map (·.1) }
    used := remaining.ports
    requests := []
    events :=
      (stale.map fun (component, member) =>
        .collectorStopped component member.spec.function
          (if required.contains component then .changed else .notRunning)) ++
      drainWarnings (stale.map (·.2)) }

/-- The components that want a collector and have none, in ascending order of names. -/
def missing (fleet : Fleet) (required : Std.ExtTreeMap String Requirement) :
    List (String × Requirement) :=
  required.toList.filter fun (component, _) => !fleet.members.contains component

def specFor (fleet : Fleet) (component : String) (requirement : Requirement) (used : List Nat) :
    Collector.Spec :=
  { component
    function := requirement.function
    port := assignPort requirement.function used
    address := requirement.address
    sourcePort := fleet.settings.sourcePort }

def takeIn (fleet : Fleet) (spec : Collector.Spec) (launch : Launch) (now : Moment) : Fleet :=
  let collector := Collector.start { spec with port := launch.port } launch.settings now
  { fleet with
    members := fleet.members.insert spec.component ⟨fleet.launches, collector, launch.drains⟩
    launches := fleet.launches + 1
    tally := fleet.tally.bump .collectorStarts }

/-- Goes on with a collector that was launched; the port asked for is used from then on. -/
def Pass.accept (pass : Pass) (spec : Collector.Spec) (launch : Launch) (now : Moment) : Pass :=
  { fleet := pass.fleet.takeIn spec launch now
    outcome := { pass.outcome with started := pass.outcome.started ++ [spec.component] }
    used := spec.port :: pass.used
    requests := pass.requests ++ [spec]
    events := pass.events ++
      [.collectorStarted spec.component spec.function spec.port spec.sourceUrl] }

def Pass.refuse (pass : Pass) (spec : Collector.Spec) (error : String) : Pass :=
  { fleet := { pass.fleet with tally := pass.fleet.tally.bump .collectorStartFailures }
    outcome := { pass.outcome with failed := pass.outcome.failed ++ [spec.component] }
    used := pass.used
    requests := pass.requests ++ [spec]
    events := pass.events ++ [.collectorStartFailed spec.component spec.function error] }

def Pass.request (pass : Pass) (wanted : String × Requirement) : Collector.Spec :=
  pass.fleet.specFor wanted.1 wanted.2 pass.used

def Pass.launch (launcher : Launcher) (now : Moment) (pass : Pass)
    (wanted : String × Requirement) : Pass :=
  match launcher (pass.request wanted) with
  | .ok launch => pass.accept (pass.request wanted) launch now
  | .error error => pass.refuse (pass.request wanted) error

def Pass.launchAll (launcher : Launcher) (now : Moment) (pass : Pass)
    (wanted : List (String × Requirement)) : Pass :=
  wanted.foldl (Pass.launch launcher now) pass

def begin (fleet : Fleet) (topology : Topology) : Fleet :=
  { fleet with
    topology
    tally := (fleet.tally.bump .reconciliations).set .componentsRunning topology.running.length }

def settle (pass : Pass) : Pass :=
  { pass with
    fleet := { pass.fleet with tally := pass.fleet.tally.set .collectorsActive pass.fleet.size }
    events := pass.events ++
      if pass.outcome.isChange then
        [.topologyChanged pass.outcome.started.length pass.outcome.stopped.length pass.fleet.size]
      else [] }

/-- Stops the collectors that a topology does not want, then launches those that it lacks. -/
def turnOver (fleet : Fleet) (launcher : Launcher) (now : Moment) (topology : Topology) : Pass :=
  let required := required topology
  let pass := (fleet.begin topology).stopStale required
  pass.launchAll launcher now (pass.fleet.missing required)

/-- Stops and launches collectors for a topology, and counts those that live then. -/
def adapt (fleet : Fleet) (launcher : Launcher) (now : Moment) (topology : Topology) : Pass :=
  settle (fleet.turnOver launcher now topology)

/-- Where the scrape document is to be written after a pass, if it is. -/
def Pass.duePath? (pass : Pass) : Option String :=
  if pass.outcome.isChange || pass.fleet.dirty then pass.fleet.settings.scrape.path else none

def Pass.noteWrite (pass : Pass) (path : String) (written : Bool) : Pass :=
  let count := pass.fleet.targets.length
  { pass with
    fleet := { pass.fleet with dirty := !written }
    events := pass.events ++
      if written then [.scrapeConfigWritten path count]
      else [.warned "Scrape config not written, retrying next pass",
        .scrapeConfigFailed path count] }

structure Reconciliation where
  fleet : Fleet
  outcome : Outcome
  /-- What the launcher was asked for, in that order. -/
  requests : List Collector.Spec
  events : List Event
  /-- The document that was to be written. -/
  attempt : Option Scrape.Document

/-- Brings the fleet in line with a topology; `write` is whether a document can be written. -/
def reconcile (fleet : Fleet) (launcher : Launcher) (write : Scrape.Document → Bool)
    (now : Moment) (topology : Topology) : Reconciliation :=
  let pass := fleet.adapt launcher now topology
  match pass.duePath? with
  | none => ⟨pass.fleet, pass.outcome, pass.requests, pass.events, none⟩
  | some path =>
    let document := pass.fleet.document
    let noted := pass.noteWrite path (write document)
    ⟨noted.fleet, noted.outcome, noted.requests, noted.events, some document⟩

def shutdown (fleet : Fleet) : Fleet × List Event :=
  let members := fleet.members.values
  ({ fleet with
      members := ∅
      stopped := fleet.stopped ++ members.map (·.serial)
      tally := (fleet.tally.add .collectorStops members.length).set .collectorsActive 0 },
    drainWarnings members)

end CoreWatch.Fleet
