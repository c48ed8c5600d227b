import CoreWatch.Proofs.Fleet.Reconcile

set_option autoImplicit false

/-!
When a pass writes the scrape document: if it changes the set of collectors, or if the latest write
has failed. A pass changes that set exactly if it reports a change.
-/

namespace CoreWatch.Fleet

section

variable (fleet : Fleet) (launcher : Launcher) (write : Scrape.Document → Bool) (now : Moment)
  (topology : Topology)

/-- Apart from the collectors and what is counted, a pass changes nothing but the topology. -/
theorem turnOver_frame :
    let after := (fleet.turnOver launcher now topology).fleet
    after.settings = fleet.settings ∧ after.topology = topology ∧ after.dirty = fleet.dirty := by
  let Framed (after : Fleet) : Prop :=
    after.settings = fleet.settings ∧ after.topology = topology ∧ after.dirty = fleet.dirty
  have begun : Framed (fleet.begin topology) := ⟨rfl, rfl, rfl⟩
  have stopped : Framed ((fleet.begin topology).stopStale (required topology)).fleet :=
    stopStale_keeps (P := Framed) (fun _ _ _ held _ => held) begun _
  refine launchAll_keeps (P := fun pass => Framed pass.fleet) _ ?_ stopped
  intro wanted _ pass held
  rcases launch_cases launcher now pass wanted with ⟨_, _, same⟩ | ⟨_, _, same⟩ <;> rw [same] <;>
    exact held

/--
A pass writes if the collectors have changed or a write is to be made good, and it has where. What
it writes is the document of the fleet that it leaves.
-/
theorem attempt_reconcile :
    let done := fleet.reconcile launcher write now topology
    done.attempt =
      if fleet.settings.scrape.path.isSome && (done.outcome.isChange || fleet.dirty) then
        some done.fleet.document
      else none := by
  obtain ⟨settings, _, dirty⟩ := turnOver_frame fleet launcher now topology
  have due : (fleet.adapt launcher now topology).duePath? =
      if (fleet.turnOver launcher now topology).outcome.isChange || fleet.dirty then
        fleet.settings.scrape.path
      else none := by
    simp only [Pass.duePath?, adapt, settle, dirty, settings]
  simp only [outcome_reconcile]
  simp only [reconcile, due]
  cases (fleet.turnOver launcher now topology).outcome.isChange || fleet.dirty <;>
    cases fleet.settings.scrape.path <;> rfl

/-- Only an attempt to write tells whether the fleet is dirty then. -/
theorem dirty_reconcile :
    let done := fleet.reconcile launcher write now topology
    done.fleet.dirty = (done.attempt.map fun document => !write document).getD fleet.dirty := by
  obtain ⟨_, _, dirty⟩ := turnOver_frame fleet launcher now topology
  simp only [reconcile]
  split
  · exact dirty
  · rfl

theorem settings_reconcile :
    (fleet.reconcile launcher write now topology).fleet.settings = fleet.settings := by
  obtain ⟨settings, _, _⟩ := turnOver_frame fleet launcher now topology
  simp only [reconcile]
  split <;> exact settings

theorem topology_reconcile :
    (fleet.reconcile launcher write now topology).fleet.topology = topology := by
  obtain ⟨_, known, _⟩ := turnOver_frame fleet launcher now topology
  simp only [reconcile]
  split <;> exact known

end

theorem isChange_eq_false {outcome : Outcome} :
    outcome.isChange = false ↔ outcome.started = [] ∧ outcome.stopped = [] := by
  simp [Outcome.isChange]

section

variable {fleet : Fleet} {launcher : Launcher} {write : Scrape.Document → Bool} {now : Moment}
  {topology : Topology}

/-- A pass that reports no change leaves every collector as it is. -/
theorem members_of_unchanged
    (unchanged : (fleet.reconcile launcher write now topology).outcome.isChange = false) :
    (fleet.reconcile launcher write now topology).fleet.members = fleet.members := by
  rw [outcome_reconcile] at unchanged
  obtain ⟨unstarted, unstopped⟩ := isChange_eq_false.mp unchanged
  have consistent := turnOver_consistent fleet launcher now topology
  have wanted (name : String) (member : Member) (there : fleet.members[name]? = some member) :
      member.Wanted (required topology) name := by
    by_contra unwanted
    have listed := (mem_stopped_turnOver fleet launcher now topology name).mpr
      ⟨member, there, unwanted⟩
    rw [unstopped] at listed
    cases listed
  rw [members_reconcile]
  -- Nothing was stopped, so every collector is wanted; nothing was started, so none is new.
  refine Std.ExtTreeMap.ext_getElem? fun name => ?_
  cases there : fleet.members[name]? with
  | some member =>
    exact consistent.keeps name member (members_remaining.mpr ⟨there, wanted name member there⟩)
  | none =>
    have absent : name ∉ (fleet.remaining topology).members := by
      rw [not_mem_remaining]
      rintro ⟨member, found, _⟩
      rw [there] at found
      cases found
    have still : name ∉ (fleet.turnOver launcher now topology).fleet.members := by
      rw [consistent.members, unstarted]
      simpa using absent
    rw [Std.ExtTreeMap.mem_iff_isSome_getElem?, Bool.not_eq_true, Option.isSome_eq_false_iff,
      Option.isNone_iff_eq_none] at still
    exact still

/-- A pass reports a change exactly if the collectors are not the same afterwards. -/
theorem isChange_eq_false_iff :
    (fleet.reconcile launcher write now topology).outcome.isChange = false ↔
      (fleet.reconcile launcher write now topology).fleet.members = fleet.members := by
  refine ⟨members_of_unchanged, fun same => ?_⟩
  rw [members_reconcile] at same
  have consistent := turnOver_consistent fleet launcher now topology
  have wanted (name : String) (member : Member) (there : fleet.members[name]? = some member) :
      member.Wanted (required topology) name :=
    consistent.wanted name member (same ▸ there)
  rw [outcome_reconcile, isChange_eq_false]
  constructor
  · -- What was started had no collector before, but would have had one all the same.
    refine List.eq_nil_iff_forall_not_mem.mpr fun name started => ?_
    have there : name ∈ fleet.members := by
      rw [← same, consistent.members]
      exact Or.inr started
    obtain ⟨member, found⟩ := Maps.mem_iff_exists.mp there
    have asked := mem_requests_iff_answered.mpr (Or.inl started)
    have lacking := ((mem_requests_turnOver fleet launcher now topology name).mp asked).2
    exact not_mem_remaining.mp lacking ⟨member, found, wanted name member found⟩
  · refine List.eq_nil_iff_forall_not_mem.mpr fun name stopped => ?_
    obtain ⟨member, found, unwanted⟩ :=
      (mem_stopped_turnOver fleet launcher now topology name).mp stopped
    exact unwanted (wanted name member found)

end

end CoreWatch.Fleet
