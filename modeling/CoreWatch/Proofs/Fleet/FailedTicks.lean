import CoreWatch.Fleet.Discovery
import CoreWatch.Proofs.Fleet.Publisher
import CoreWatch.Proofs.SelfHealth.LastReports

set_option autoImplicit false

/-!
Discovery tick by tick. A tick that cannot read the topology leaves no trace but its own report and
its count: the fleet, the files, what is published and the report on the fleet are as if that tick
had never been.
-/

namespace CoreWatch

namespace Tally

theorem add_add (tally : Tally) (first second : Meter) (m n : Nat) :
    (tally.add first m).add second n = (tally.add second n).add first m := by
  refine congrArg Tally.mk (funext fun meter => ?_)
  simp only [count_add]
  split <;> split <;> omega

theorem set_add {first second : Meter} (apart : first ≠ second) (tally : Tally) (m n : Nat) :
    (tally.add first m).set second n = (tally.set second n).add first m := by
  refine congrArg Tally.mk (funext fun meter => ?_)
  simp only [count_add, count_set]
  split
  · rename_i here
    rw [if_neg fun same => apart (same.symm.trans here)]
  · rfl

end Tally

namespace Fleet

/-! Passes and the count of topologies that could not be read -/

/-- The fleet when some more topologies could not be read. -/
def unread (fleet : Fleet) (failures : Nat) : Fleet :=
  { fleet with tally := fleet.tally.add .topologyErrors failures }

def Pass.unread (pass : Pass) (failures : Nat) : Pass :=
  { pass with fleet := pass.fleet.unread failures }

def Reconciliation.unread (done : Reconciliation) (failures : Nat) : Reconciliation :=
  { done with fleet := done.fleet.unread failures }

variable (failures : Nat)

@[simp] theorem unread_zero (fleet : Fleet) : fleet.unread 0 = fleet := by
  have same : fleet.tally.add .topologyErrors 0 = fleet.tally :=
    congrArg Tally.mk (funext fun meter => ite_self _)
  rw [unread, same]

theorem unread_succ (fleet : Fleet) :
    fleet.unread (failures + 1) = (fleet.unread failures).unread 1 := by
  have same : fleet.tally.add .topologyErrors (failures + 1) =
      (fleet.tally.add .topologyErrors failures).add .topologyErrors 1 := by
    refine congrArg Tally.mk (funext fun meter => ?_)
    simp only [Tally.count_add]
    split <;> omega
  rw [unread, unread, unread, same]

theorem begin_unread (fleet : Fleet) (topology : Topology) :
    (fleet.unread failures).begin topology = (fleet.begin topology).unread failures := by
  simp only [begin, unread, Tally.bump]
  rw [Tally.add_add, Tally.set_add (by decide)]

theorem stop_unread (fleet : Fleet) (name : String) (member : Member) :
    (fleet.unread failures).stop name member = (fleet.stop name member).unread failures := by
  simp only [stop, unread, Tally.bump]
  rw [Tally.add_add]

theorem stopAll_unread (fleet : Fleet) (entries : List (String × Member)) :
    (fleet.unread failures).stopAll entries = (fleet.stopAll entries).unread failures := by
  induction entries generalizing fleet with
  | nil => rfl
  | cons entry rest ih => rw [stopAll_cons, stop_unread, ih, stopAll_cons]

theorem stopStale_unread (fleet : Fleet) (required : Std.ExtTreeMap String Requirement) :
    (fleet.unread failures).stopStale required =
      (fleet.stopStale required).unread failures := by
  have stale : (fleet.unread failures).stale required = fleet.stale required := rfl
  simp only [stopStale, stale, stopAll_unread]
  rfl

theorem accept_unread (pass : Pass) (spec : Collector.Spec) (launch : Launch) (now : Moment) :
    (pass.unread failures).accept spec launch now =
      (pass.accept spec launch now).unread failures := by
  simp only [Pass.accept, Pass.unread, takeIn, unread, Tally.bump]
  rw [Tally.add_add]

theorem refuse_unread (pass : Pass) (spec : Collector.Spec) (error : String) :
    (pass.unread failures).refuse spec error = (pass.refuse spec error).unread failures := by
  simp only [Pass.refuse, Pass.unread, unread, Tally.bump]
  rw [Tally.add_add]

theorem launch_unread (launcher : Launcher) (now : Moment) (pass : Pass)
    (wanted : String × Requirement) :
    (pass.unread failures).launch launcher now wanted =
      (pass.launch launcher now wanted).unread failures := by
  have request : (pass.unread failures).request wanted = pass.request wanted := rfl
  rw [Pass.launch, Pass.launch, request]
  cases launcher (pass.request wanted) with
  | ok launch => exact accept_unread failures pass _ launch now
  | error error => exact refuse_unread failures pass _ error

theorem launchAll_unread (launcher : Launcher) (now : Moment) (pass : Pass)
    (wanted : List (String × Requirement)) :
    (pass.unread failures).launchAll launcher now wanted =
      (pass.launchAll launcher now wanted).unread failures := by
  induction wanted generalizing pass with
  | nil => rfl
  | cons first rest ih => rw [launchAll_cons, launch_unread, ih, launchAll_cons]

theorem settle_unread (pass : Pass) :
    settle (pass.unread failures) = (settle pass).unread failures := by
  simp only [settle, Pass.unread, unread]
  rw [Tally.set_add (by decide)]
  rfl

theorem adapt_unread (fleet : Fleet) (launcher : Launcher) (now : Moment) (topology : Topology) :
    (fleet.unread failures).adapt launcher now topology =
      (fleet.adapt launcher now topology).unread failures := by
  have missing (pass : Pass) (required : Std.ExtTreeMap String Requirement) :
      (pass.unread failures).fleet.missing required = pass.fleet.missing required := rfl
  simp only [adapt, turnOver, begin_unread, stopStale_unread, missing, launchAll_unread,
    settle_unread]

/-- A pass neither asks nor changes how many topologies could not be read. -/
theorem reconcile_unread (fleet : Fleet) (launcher : Launcher) (write : Scrape.Document → Bool)
    (now : Moment) (topology : Topology) :
    (fleet.unread failures).reconcile launcher write now topology =
      (fleet.reconcile launcher write now topology).unread failures := by
  simp only [reconcile, adapt_unread]
  have due : ((fleet.adapt launcher now topology).unread failures).duePath? =
      (fleet.adapt launcher now topology).duePath? := rfl
  rw [due]
  split <;> rfl

theorem topologyErrors_reconcile (fleet : Fleet) (launcher : Launcher)
    (write : Scrape.Document → Bool) (now : Moment) (topology : Topology) :
    (fleet.reconcile launcher write now topology).fleet.tally.count .topologyErrors =
      fleet.tally.count .topologyErrors := by
  let Counted (after : Fleet) : Prop :=
    after.tally.count .topologyErrors = fleet.tally.count .topologyErrors
  have begun : Counted (fleet.begin topology) := rfl
  have stopped : Counted ((fleet.begin topology).stopStale (required topology)).fleet :=
    stopStale_keeps (P := Counted) (fun _ _ _ held _ => held) begun _
  have turned : Counted (fleet.turnOver launcher now topology).fleet := by
    refine launchAll_keeps (P := fun pass => Counted pass.fleet) _ ?_ stopped
    intro wanted _ pass held
    rcases launch_cases launcher now pass wanted with ⟨_, _, same⟩ | ⟨_, _, same⟩ <;> rw [same] <;>
      exact held
  simp only [reconcile]
  split <;> exact turned

end Fleet

namespace Discovery

/-! Ticks -/

/-- What a tick meets. -/
structure Beat extends Fleet.Scene where
  snapshot : Except SnapshotFault Topology

/-- Whether a tick cannot read the topology. -/
def Beat.fails (beat : Beat) : Bool :=
  !beat.snapshot.isOk

/-- The pass of a tick that reads a topology. -/
def Beat.visit (beat : Beat) (topology : Topology) : Fleet.Visit :=
  ⟨beat.toScene, topology⟩

/-- Discovery with the files among which the scrape document is kept. -/
structure Lookout where
  discovery : Discovery
  files : FileTree

namespace Lookout

def fleet (lookout : Lookout) : Fleet :=
  lookout.discovery.fleet

def publisher (lookout : Lookout) : Fleet.Publisher :=
  ⟨lookout.fleet, lookout.files⟩

def tick (lookout : Lookout) (beat : Beat) : Tick :=
  lookout.discovery.tick beat.launcher (lookout.publisher.canWrite beat.toScene) beat.now
    beat.snapshot

def step (lookout : Lookout) (beat : Beat) : Lookout :=
  let done := lookout.tick beat
  { discovery := done.discovery
    files :=
      match done.attempt with
      | none => lookout.files
      | some document => (beat.put lookout.files document).1 }

def run (lookout : Lookout) (beats : List Beat) : Lookout :=
  beats.foldl step lookout

def report? (lookout : Lookout) (part : Part) : Option HealthReport :=
  lookout.discovery.health.report? part.name

def topologyErrors (lookout : Lookout) : Nat :=
  lookout.fleet.tally.count .topologyErrors

/-- Whether the latest report of a part is that it is degraded. -/
def isDegraded (lookout : Lookout) (part : Part) : Bool :=
  (lookout.report? part).any (·.status = .degraded)

/-- A tick that cannot read the topology reports that, counts it, and does nothing else. -/
theorem step_of_error {lookout : Lookout} {beat : Beat} {causes : SnapshotFault}
    (failed : beat.snapshot = .error causes) :
    lookout.step beat =
      { discovery :=
          { fleet := lookout.fleet.unread 1
            published := lookout.discovery.published
            health := lookout.discovery.health.setDegraded Part.topology.name
              (String.intercalate ": " causes) beat.now }
        files := lookout.files } := by
  simp only [step, tick, Discovery.tick, failed]
  rfl

/-- A tick that reads a topology does a pass for it, and reports how that went. -/
theorem step_of_ok {lookout : Lookout} {beat : Beat} {topology : Topology}
    (read : beat.snapshot = .ok topology) :
    lookout.step beat =
      { discovery :=
          { fleet := (lookout.publisher.pass (beat.visit topology)).fleet
            published := topology
            health := reportPass (lookout.discovery.health.setHealthy Part.topology.name beat.now)
              (lookout.publisher.reconcile (beat.visit topology)).outcome beat.now }
        files := (lookout.publisher.pass (beat.visit topology)).files } := by
  simp only [step, tick, Discovery.tick, read]
  rfl

theorem snapshot_of_fails {beat : Beat} (fails : beat.fails = true) :
    ∃ causes, beat.snapshot = .error causes := by
  rw [Beat.fails] at fails
  cases read : beat.snapshot with
  | error causes => exact ⟨causes, rfl⟩
  | ok topology =>
    rw [read] at fails
    cases fails

theorem snapshot_of_succeeds {beat : Beat} (succeeds : beat.fails = false) :
    ∃ topology, beat.snapshot = .ok topology := by
  rw [Beat.fails] at succeeds
  cases read : beat.snapshot with
  | ok topology => exact ⟨topology, rfl⟩
  | error causes =>
    rw [read] at succeeds
    cases succeeds

/-! Reports -/

theorem report?_reportPass_topology (health : SelfHealth) (outcome : Fleet.Outcome)
    (now : Moment) :
    (reportPass health outcome now).report? Part.topology.name =
      health.report? Part.topology.name := by
  rw [reportPass]
  split <;> exact (SelfHealth.report?_update ..).trans (if_neg (by decide))

theorem report?_reportPass_orchestrator (health : SelfHealth) (outcome : Fleet.Outcome)
    (now : Moment) :
    (reportPass health outcome now).report? Part.orchestrator.name =
      some (if outcome.failed = [] then .ofStatus .healthy none now
        else .ofStatus .degraded (some (failedMessage outcome.failed)) now) := by
  rw [reportPass]
  simp only [List.isEmpty_iff]
  split <;> exact (SelfHealth.report?_update ..).trans (if_pos rfl)

theorem isDegraded_step (lookout : Lookout) (beat : Beat) :
    (lookout.step beat).isDegraded .topology = beat.fails := by
  cases fails : beat.fails with
  | true =>
    obtain ⟨causes, failed⟩ := snapshot_of_fails fails
    rw [step_of_error failed, isDegraded, report?]
    simp only [SelfHealth.setDegraded, SelfHealth.report?_update, if_pos]
    rfl
  | false =>
    obtain ⟨topology, read⟩ := snapshot_of_succeeds fails
    rw [step_of_ok read, isDegraded, report?]
    simp only [report?_reportPass_topology, SelfHealth.setHealthy, SelfHealth.report?_update,
      if_pos]
    rfl

theorem topologyErrors_step (lookout : Lookout) (beat : Beat) :
    (lookout.step beat).topologyErrors =
      lookout.topologyErrors + if beat.fails then 1 else 0 := by
  cases fails : beat.fails with
  | true =>
    obtain ⟨causes, failed⟩ := snapshot_of_fails fails
    rw [step_of_error failed]
    rfl
  | false =>
    obtain ⟨topology, read⟩ := snapshot_of_succeeds fails
    rw [step_of_ok read]
    exact Fleet.topologyErrors_reconcile ..

theorem topologyErrors_run (lookout : Lookout) (beats : List Beat) :
    (lookout.run beats).topologyErrors = lookout.topologyErrors + beats.countP (·.fails) := by
  induction beats generalizing lookout with
  | nil => rfl
  | cons beat rest ih =>
    have first := topologyErrors_step lookout beat
    have later : (lookout.run (beat :: rest)).topologyErrors = _ := ih (lookout.step beat)
    rw [later, first, List.countP_cons, Nat.add_assoc, Nat.add_comm (ite ..)]

/-! Ticks that are left out -/

/-- How a run stands beside one without `failures` ticks that could not read the topology. -/
structure Unnoticed (failures : Nat) (after seen : Lookout) : Prop where
  fleet : after.fleet = seen.fleet.unread failures
  published : after.discovery.published = seen.discovery.published
  files : after.files = seen.files
  report : after.report? .orchestrator = seen.report? .orchestrator

theorem unnoticed_refl (lookout : Lookout) : Unnoticed 0 lookout lookout :=
  ⟨(Fleet.unread_zero _).symm, rfl, rfl, rfl⟩

section

variable {failures : Nat} {after seen : Lookout} (unnoticed : Unnoticed failures after seen)

include unnoticed

theorem Unnoticed.fault {beat : Beat} (fails : beat.fails = true) :
    Unnoticed (failures + 1) (after.step beat) seen := by
  obtain ⟨causes, failed⟩ := snapshot_of_fails fails
  rw [step_of_error failed]
  refine ⟨?_, unnoticed.published, unnoticed.files, ?_⟩
  · exact (congrArg (·.unread 1) unnoticed.fleet).trans (Fleet.unread_succ ..).symm
  · rw [← unnoticed.report]
    exact (SelfHealth.report?_update ..).trans (if_neg (by decide))

theorem Unnoticed.pass {beat : Beat} (succeeds : beat.fails = false) :
    Unnoticed failures (after.step beat) (seen.step beat) := by
  obtain ⟨topology, read⟩ := snapshot_of_succeeds succeeds
  have done : after.publisher.reconcile (beat.visit topology) =
      (seen.publisher.reconcile (beat.visit topology)).unread failures := by
    have same : after.publisher = ⟨seen.fleet.unread failures, seen.files⟩ :=
      congrArg₂ Fleet.Publisher.mk unnoticed.fleet unnoticed.files
    rw [same]
    exact Fleet.reconcile_unread ..
  have files : after.publisher.files = seen.publisher.files := unnoticed.files
  rw [step_of_ok read, step_of_ok read]
  simp only [Fleet.Publisher.pass, done, files]
  refine ⟨rfl, rfl, rfl, ?_⟩
  exact (report?_reportPass_orchestrator ..).trans (report?_reportPass_orchestrator ..).symm

/-- What the ticks that read a topology do is the same with or without the others. -/
theorem Unnoticed.run (beats : List Beat) :
    Unnoticed (failures + beats.countP (·.fails)) (after.run beats)
      (seen.run (beats.filter (!·.fails))) := by
  induction beats generalizing after seen failures with
  | nil => exact unnoticed
  | cons beat rest ih =>
    cases fails : beat.fails with
    | true =>
      have later := ih (unnoticed.fault fails)
      rw [List.countP_cons_of_pos fails, List.filter_cons_of_neg (by rw [fails]; decide),
        Nat.add_comm (rest.countP _), ← Nat.add_assoc]
      exact later
    | false =>
      have later := ih (unnoticed.pass fails)
      rw [List.countP_cons_of_neg (by rw [fails]; decide),
        List.filter_cons_of_pos (by rw [fails]; rfl)]
      exact later

end

theorem run_append (lookout : Lookout) (beats others : List Beat) :
    lookout.run (beats ++ others) = (lookout.run beats).run others :=
  List.foldl_append

/-- Ticks that all fail have gone unnoticed. -/
theorem unnoticed_faults (lookout : Lookout) {beats : List Beat}
    (fail : ∀ beat ∈ beats, beat.fails = true) :
    Unnoticed (beats.countP (·.fails)) (lookout.run beats) lookout := by
  have unnoticed := (unnoticed_refl lookout).run beats
  have none : beats.filter (!·.fails) = [] :=
    List.filter_eq_nil_iff.mpr fun beat listed => by rw [fail beat listed]; decide
  rw [none, Nat.zero_add] at unnoticed
  exact unnoticed

end Lookout

/--
Ticks that cannot read the topology leave the fleet, the files, what is published and the report on
the fleet as if they had never been; only their number is counted, and the report on the topology is
that it is degraded as long as the latest tick is one of them. The latest tick that reads a topology
has it published and kept by the fleet, and the report on the fleet lists the components whose
launch has failed in it.
-/
theorem failed_ticks_unseen (start : Lookout) (beats : List Beat) :
    let after := start.run beats
    let seen := start.run (beats.filter (!·.fails))
    let failures := beats.countP (·.fails)
    after.fleet = { seen.fleet with tally := seen.fleet.tally.add .topologyErrors failures } ∧
      after.discovery.published = seen.discovery.published ∧
      after.files = seen.files ∧
      after.report? .orchestrator = seen.report? .orchestrator ∧
      after.topologyErrors = start.topologyErrors + failures ∧
      (∀ last ∈ beats.getLast?, after.isDegraded .topology = last.fails) ∧
      ∀ (before rest : List Beat) (beat : Beat) (topology : Topology),
        beats = before ++ beat :: rest → beat.snapshot = .ok topology →
        (∀ later ∈ rest, later.fails = true) →
        let asked := ((start.run before).publisher.reconcile (beat.visit topology)).requests
        let refused := (asked.filter fun spec => !beat.launcher.accepts spec).map (·.component)
        after.discovery.published = topology ∧ after.fleet.topology = topology ∧
          after.report? .orchestrator =
            some (if refused = [] then .ofStatus .healthy none beat.now
              else .ofStatus .degraded
                (some ("failed to start collectors: " ++ String.intercalate ", " refused))
                beat.now) := by
  intro after seen failures
  have unnoticed : Lookout.Unnoticed failures after seen := by
    have whole := (Lookout.unnoticed_refl start).run beats
    rwa [Nat.zero_add] at whole
  refine ⟨unnoticed.fleet, unnoticed.published, unnoticed.files, unnoticed.report,
    Lookout.topologyErrors_run start beats, fun last latest => ?_, ?_⟩
  · obtain ⟨before, rfl⟩ := List.getLast?_eq_some_iff.mp latest
    have final : after = (start.run before).step last := Lookout.run_append ..
    rw [final]
    exact Lookout.isDegraded_step _ last
  · intro before rest beat topology split read faults asked refused
    have whole : after = ((start.run before).step beat).run rest := by
      have appended := Lookout.run_append start before (beat :: rest)
      rw [← split] at appended
      exact appended
    have still := Lookout.unnoticed_faults ((start.run before).step beat) faults
    rw [← whole] at still
    have failed : ((start.run before).publisher.reconcile (beat.visit topology)).outcome.failed =
        refused := by
      have consistent := Fleet.turnOver_consistent (start.run before).fleet beat.launcher beat.now
        topology
      simp only [refused, asked, Fleet.Publisher.reconcile]
      rw [Fleet.outcome_reconcile, Fleet.requests_reconcile]
      exact consistent.failed
    rw [Lookout.step_of_ok read] at still
    refine ⟨still.published, ?_, ?_⟩
    · rw [still.fleet]
      exact Fleet.topology_reconcile ..
    · rw [still.report, ← failed]
      exact Lookout.report?_reportPass_orchestrator ..

/-- A collector whose port is taken stays reported while the topology cannot be read. -/
theorem failed_ticks_unseen_smf :
    let launcher : Fleet.Launcher := fun spec =>
      if spec.component = "smf" then .error "port in use"
      else .ok { port := spec.port, settings := {} }
    let scene (seconds : Int) : Fleet.Scene := .undisturbed launcher ⟨seconds⟩ "scrape.yml"
    let topology : Topology := .ofComponents
      [⟨"amf", "", "10.0.0.1", true, []⟩, ⟨"smf", "", "10.0.0.2", true, []⟩]
    let failing (seconds : Int) : Beat :=
      ⟨scene seconds, .error ["Failed to list containers", "no answer"]⟩
    let reading : Beat := ⟨scene 20, .ok topology⟩
    let start : Lookout :=
      ⟨⟨.empty { scrape := { path := some "scrape.yml" } }, .empty, .empty⟩, .empty⟩
    let after := start.run [failing 10, reading, failing 30, failing 40]
    reading.snapshot = .ok topology ∧
      (∀ later ∈ [failing 30, failing 40], later.fails = true) ∧
      after.discovery.published = topology ∧ after.files = (start.run [reading]).files ∧
      after.topologyErrors = 3 ∧ after.isDegraded .topology = true ∧
      after.report? .orchestrator =
        some (.ofStatus .degraded (some "failed to start collectors: smf") ⟨20⟩) := by
  intro launcher scene topology failing reading start after
  have faults : ∀ later ∈ [failing 30, failing 40], later.fails = true := by
    rw [List.forall_mem_cons, List.forall_mem_singleton]
    exact ⟨rfl, rfl⟩
  obtain ⟨-, -, files, -, errors, latest, passes⟩ :=
    failed_ticks_unseen start [failing 10, reading, failing 30, failing 40]
  obtain ⟨published, -, report⟩ := passes [failing 10] _ reading topology rfl rfl faults
  refine ⟨rfl, faults, published, files, errors, latest _ rfl, report.trans ?_⟩
  decide +kernel

end Discovery
end CoreWatch
