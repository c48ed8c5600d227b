import CoreWatch.Proofs.Fleet.Ledger
import CoreWatch.Proofs.Fleet.Writing

set_option autoImplicit false

/-!
A pass that is repeated: it tries again the launches that have failed, and a write that has failed.
When nothing has failed it does nothing, whatever happened before.
-/

namespace CoreWatch.Fleet

/-! Writing -/

/-- Whether the document could be written that a command was to write, if it was to write one. -/
def tried (fleet : Fleet) : Command → List Bool
  | .reconcile launcher write now topology =>
    ((fleet.reconcile launcher write now topology).attempt.map write).toList
  | _ => []

/-- How the attempts of a run have gone to write the document, in order. -/
def writes (fleet : Fleet) : List Command → List Bool
  | [] => []
  | command :: rest => fleet.tried command ++ (fleet.perform command).writes rest

theorem run_concat (fleet : Fleet) (commands : List Command) (command : Command) :
    fleet.run (commands ++ [command]) = (fleet.run commands).perform command := by
  rw [run, run, List.foldl_concat]

theorem dirty_perform (fleet : Fleet) (command : Command) :
    (fleet.perform command).dirty =
      ((fleet.tried command).getLast?.map (!·)).getD fleet.dirty := by
  cases command with
  | reconcile launcher write now topology =>
    rw [perform, dirty_reconcile, tried]
    cases (fleet.reconcile launcher write now topology).attempt <;> rfl
  | shutdown => rfl
  | fetch component now exchange =>
    simp only [perform, fetch]
    split <;> rfl
  | cancel => rfl

/-- A fleet is dirty after a run exactly if the latest attempt to write has failed. -/
theorem dirty_run (fleet : Fleet) (commands : List Command) :
    (fleet.run commands).dirty =
      ((fleet.writes commands).getLast?.map (!·)).getD fleet.dirty := by
  induction commands generalizing fleet with
  | nil => rfl
  | cons command rest ih =>
    rw [writes, List.getLast?_append, Option.map_or, Option.getD_or, ← dirty_perform]
    exact ih (fleet.perform command)

theorem dirty_run_empty (settings : Settings) (commands : List Command) :
    ((empty settings).run commands).dirty = true ↔
      ((empty settings).writes commands).getLast? = some false := by
  rw [dirty_run]
  cases ((empty settings).writes commands).getLast? with
  | none => exact iff_of_false Bool.false_ne_true nofun
  | some success =>
    cases success with
    | true => exact iff_of_false Bool.false_ne_true nofun
    | false => exact iff_of_true rfl rfl

/-- A fleet that is only dirty if there is a place for its document. -/
def Placed (fleet : Fleet) : Prop :=
  fleet.dirty = true → fleet.settings.scrape.path.isSome = true

theorem perform_placed {fleet : Fleet} (placed : fleet.Placed) (command : Command) :
    (fleet.perform command).Placed := by
  cases command with
  | reconcile launcher write now topology =>
    -- Without a place nothing is written, so the fleet would have been dirty before.
    intro dirty
    rw [perform, settings_reconcile]
    by_contra nowhere
    have unwritten : (fleet.reconcile launcher write now topology).attempt = none := by
      rw [attempt_reconcile, Bool.eq_false_iff.mpr nowhere, Bool.false_and,
        if_neg Bool.false_ne_true]
    rw [perform, dirty_reconcile, unwritten] at dirty
    exact nowhere (placed dirty)
  | shutdown => exact placed
  | fetch component now exchange =>
    rw [perform, Placed, fetch]
    split <;> exact placed
  | cancel => exact placed

theorem run_placed {fleet : Fleet} (placed : fleet.Placed) (commands : List Command) :
    (fleet.run commands).Placed :=
  List.foldlRecOn commands _ placed fun _ held command _ => perform_placed held command

/-- A pass that changes no collector writes only to make good. -/
theorem attempt_of_unchanged {fleet : Fleet} (placed : fleet.Placed) {launcher : Launcher}
    {write : Scrape.Document → Bool} {now : Moment} {topology : Topology}
    (unchanged : (fleet.reconcile launcher write now topology).outcome.isChange = false) :
    (fleet.reconcile launcher write now topology).attempt =
      if fleet.dirty then some (fleet.reconcile launcher write now topology).fleet.document
      else none := by
  rw [attempt_reconcile, unchanged, Bool.false_or]
  cases dirty : fleet.dirty with
  | false => rw [Bool.and_false]
  | true => rw [placed dirty, Bool.true_and]

/-! A fleet that is in line with its topology -/

/-- A fleet of collectors that are all wanted as they are. -/
def Settled (fleet : Fleet) (topology : Topology) : Prop :=
  ∀ (name : String) (member : Member), fleet.members[name]? = some member →
    member.Wanted (required topology) name

section

variable (fleet : Fleet) (launcher : Launcher) (now : Moment) (topology : Topology)

theorem reconcile_settled (write : Scrape.Document → Bool) :
    (fleet.reconcile launcher write now topology).fleet.Settled topology := by
  intro name member there
  rw [members_reconcile] at there
  exact (turnOver_consistent fleet launcher now topology).wanted name member there

/-- Components are asked for in ascending order, and so are those that have failed. -/
theorem failed_ascending :
    (fleet.turnOver launcher now topology).outcome.failed.Pairwise (· < ·) := by
  have asked := missing_ascending (fleet.remaining topology) (required topology)
  rw [← requests_turnOver fleet launcher now] at asked
  rw [(turnOver_consistent fleet launcher now topology).failed]
  exact asked.sublist (List.filter_sublist.map _)

end

theorem Outcome.eq_empty {outcome : Outcome} (unstarted : outcome.started = [])
    (unstopped : outcome.stopped = []) (unfailed : outcome.failed = []) : outcome = {} := by
  obtain ⟨started, stopped, failed⟩ := outcome
  cases unstarted
  cases unstopped
  cases unfailed
  rfl

section

variable {fleet : Fleet} {topology : Topology} (settled : fleet.Settled topology)
  (launcher : Launcher) (now : Moment)

include settled

theorem Settled.stopped_eq_nil :
    (fleet.turnOver launcher now topology).outcome.stopped = [] := by
  refine List.eq_nil_iff_forall_not_mem.mpr fun name stopped => ?_
  obtain ⟨member, there, unwanted⟩ :=
    (mem_stopped_turnOver fleet launcher now topology name).mp stopped
  exact unwanted (settled name member there)

theorem Settled.remaining_eq : fleet.remaining topology = fleet.begin topology := by
  have stale : (fleet.begin topology).stale (required topology) = [] :=
    List.eq_nil_iff_forall_not_mem.mpr fun (name, member) listed =>
      (mem_stale.mp listed).2 (settled name member (mem_stale.mp listed).1)
  change (fleet.begin topology).stopAll _ = _
  rw [stale, stopAll_nil]

/-- A settled fleet asks for the components that have no collector. -/
theorem Settled.mem_requests (name : String) :
    name ∈ (fleet.turnOver launcher now topology).requests.map (·.component) ↔
      name ∈ required topology ∧ name ∉ fleet.members := by
  rw [mem_requests_turnOver, settled.remaining_eq]
  rfl

theorem Settled.keeps {name : String} {member : Member}
    (there : fleet.members[name]? = some member) :
    (fleet.turnOver launcher now topology).fleet.members[name]? = some member := by
  refine (turnOver_consistent fleet launcher now topology).keeps name member ?_
  rw [settled.remaining_eq]
  exact there

theorem Settled.stopped_turnOver :
    (fleet.turnOver launcher now topology).fleet.stopped = fleet.stopped := by
  have before : (fleet.remaining topology).stopped = fleet.stopped := by
    rw [settled.remaining_eq]
    rfl
  refine launchAll_keeps (P := fun pass => pass.fleet.stopped = fleet.stopped) _ ?_ before
  intro entry _ pass held
  rcases launch_cases launcher now pass entry with ⟨_, _, same⟩ | ⟨_, _, same⟩ <;> rw [same] <;>
    exact held

/-- A pass that has nothing to stop and nothing to ask for changes nothing. -/
theorem Settled.reconcile_of_unasked {write : Scrape.Document → Bool}
    (unasked : (fleet.reconcile launcher write now topology).requests = []) :
    (fleet.reconcile launcher write now topology).outcome = {} ∧
      (fleet.reconcile launcher write now topology).fleet.members = fleet.members ∧
        (fleet.reconcile launcher write now topology).fleet.launches = fleet.launches := by
  rw [requests_reconcile] at unasked
  have consistent := turnOver_consistent fleet launcher now topology
  have none : (fleet.remaining topology).missing (required topology) = [] := by
    have names := requests_turnOver fleet launcher now topology
    rw [unasked, List.map_nil] at names
    exact List.map_eq_nil_iff.mp names.symm
  have same : (fleet.turnOver launcher now topology).fleet = fleet.begin topology := by
    change (Pass.launchAll launcher now _ ((fleet.remaining topology).missing _)).fleet = _
    rw [none, launchAll_nil]
    exact settled.remaining_eq
  rw [outcome_reconcile, members_reconcile, launches_reconcile, same]
  refine ⟨Outcome.eq_empty ?_ (settled.stopped_eq_nil launcher now) ?_, rfl, rfl⟩
  · rw [consistent.started, unasked, List.filter_nil, List.map_nil]
  · rw [consistent.failed, unasked, List.filter_nil, List.map_nil]

end

/-! Two passes -/

/-- A repeated pass asks for those that have failed. -/
theorem requests_again (fleet : Fleet) (launcher launcher' : Launcher)
    (write : Scrape.Document → Bool) (now now' : Moment) (topology : Topology) :
    let first := fleet.reconcile launcher write now topology
    (first.fleet.turnOver launcher' now' topology).requests.map (·.component) =
      first.outcome.failed := by
  intro first
  have settled : first.fleet.Settled topology := reconcile_settled fleet launcher now topology write
  have ascending : first.outcome.failed.Pairwise (· < ·) :=
    (outcome_reconcile fleet launcher write now topology).symm ▸
      failed_ascending fleet launcher now topology
  refine Maps.eq_of_ascending ?_ ascending fun name => ?_
  · rw [requests_turnOver]
    exact missing_ascending _ _
  · -- What lacks a collector after the first pass is what that has asked for in vain.
    rw [settled.mem_requests, members_reconcile, outcome_reconcile, mem_turnOver]
    have asked := mem_requests_turnOver fleet launcher now topology name
    constructor
    · rintro ⟨wanted, lacking⟩
      by_contra unfailed
      exact lacking ⟨wanted, unfailed⟩
    · intro failed
      have wanted := (asked.mp (mem_requests_iff_answered.mpr (.inr failed))).1
      exact ⟨wanted, fun there => there.2 failed⟩

/--
After any run, a pass that is repeated at once stops nothing, leaves every collector as it is and
asks exactly for those whose launch has failed. If none has, it changes nothing, launches nothing,
and writes the document only to make good the latest attempt to write, if that has failed.
-/
theorem reconcile_again (settings : Settings) (commands : List Command)
    (launcher launcher' : Launcher) (write write' : Scrape.Document → Bool) (now now' : Moment)
    (topology : Topology) :
    let start := empty settings
    let first := (start.run commands).reconcile launcher write now topology
    let second := first.fleet.reconcile launcher' write' now' topology
    let written := start.writes (commands ++ [.reconcile launcher write now topology])
    second.outcome.stopped = [] ∧ second.fleet.stopped = first.fleet.stopped ∧
      second.requests.map (·.component) = first.outcome.failed ∧
      (∀ (name : String) (member : Member), first.fleet.members[name]? = some member →
        second.fleet.members[name]? = some member ∧ member.serial ∉ second.fleet.stopped) ∧
      (first.outcome.failed = [] →
        second.outcome = {} ∧ second.requests = [] ∧
          second.fleet.members = first.fleet.members ∧
          second.fleet.launches = first.fleet.launches ∧
          second.fleet.tally.count .collectorsActive = first.fleet.tally.count .collectorsActive ∧
          second.attempt =
            if written.getLast? = some false then some second.fleet.document else none) := by
  intro start first second written
  have settled : first.fleet.Settled topology :=
    reconcile_settled (start.run commands) launcher now topology write
  have reached : first.fleet = start.run (commands ++ [.reconcile launcher write now topology]) :=
    (run_concat start commands (.reconcile launcher write now topology)).symm
  have numbered : first.fleet.Numbered := reached ▸ run_numbered (empty_numbered settings) _
  have stopped : second.fleet.stopped = first.fleet.stopped :=
    (stopped_reconcile ..).trans (settled.stopped_turnOver launcher' now')
  have requests : second.requests.map (·.component) = first.outcome.failed :=
    (congrArg _ (requests_reconcile ..)).trans (requests_again ..)
  refine ⟨?_, stopped, requests, fun name member there => ⟨?_, ?_⟩, fun unfailed => ?_⟩
  · exact (congrArg _ (outcome_reconcile ..)).trans (settled.stopped_eq_nil launcher' now')
  · exact (congrArg (·[name]?) (members_reconcile ..)).trans (settled.keeps launcher' now' there)
  · exact stopped ▸ numbered.live there
  · have unasked : second.requests = [] := List.map_eq_nil_iff.mp (requests.trans unfailed)
    obtain ⟨outcome, members, launches⟩ := settled.reconcile_of_unasked launcher' now' unasked
    refine ⟨outcome, unasked, members, launches, ?_, ?_⟩
    · have begun : start.tally.count .collectorsActive = start.size := rfl
      have before : first.fleet.tally.count .collectorsActive = first.fleet.size :=
        reached ▸ run_active begun _
      have after : second.fleet.tally.count .collectorsActive = second.fleet.size :=
        perform_active before (.reconcile launcher' write' now' topology)
      rw [after, before, size, size, members]
    · have placed : first.fleet.Placed := reached ▸ run_placed (fun dirty => by cases dirty) _
      have unchanged : second.outcome.isChange = false := by rw [outcome]; rfl
      have failed : first.fleet.dirty = true ↔ written.getLast? = some false :=
        reached ▸ dirty_run_empty settings _
      exact (attempt_of_unchanged placed unchanged).trans
        (ite_congr (propext failed) (fun _ => rfl) fun _ => rfl)

end CoreWatch.Fleet
