import CoreWatch.Proofs.Fleet.Run

set_option autoImplicit false

/-!
What holds after a pass: which collectors there are, which of them are still the same, which were
stopped, and what was asked of the launcher.
-/

namespace CoreWatch.Fleet

/-- The fleet of a pass when all that its topology does not want is stopped. -/
def remaining (fleet : Fleet) (topology : Topology) : Fleet :=
  ((fleet.begin topology).stopStale (required topology)).fleet

theorem members_remaining {fleet : Fleet} {topology : Topology} {name : String}
    {member : Member} :
    (fleet.remaining topology).members[name]? = some member ↔
      fleet.members[name]? = some member ∧ member.Wanted (required topology) name :=
  members_stopStale

theorem turnOver_consistent (fleet : Fleet) (launcher : Launcher) (now : Moment)
    (topology : Topology) :
    (fleet.turnOver launcher now topology).Consistent launcher (required topology)
      (fleet.remaining topology) :=
  launchAll_keeps (P := fun pass => pass.Consistent launcher _ _) _
    (fun _ listed _ held => launch_consistent held now listed)
    (stopStale_consistent launcher (fleet.begin topology) (required topology))

/-- A pass asks for the collectors that are still missing when the others are stopped. -/
theorem requests_turnOver (fleet : Fleet) (launcher : Launcher) (now : Moment)
    (topology : Topology) :
    (fleet.turnOver launcher now topology).requests.map (·.component) =
      ((fleet.remaining topology).missing (required topology)).map Prod.fst :=
  requests_launchAll launcher now ((fleet.begin topology).stopStale (required topology)) _

theorem missing_ascending (fleet : Fleet) (required : Std.ExtTreeMap String Requirement) :
    ((fleet.missing required).map Prod.fst).Pairwise (· < ·) := by
  have ascending := Maps.keys_ascending required
  rw [← Std.ExtTreeMap.map_fst_toList_eq_keys] at ascending
  exact ascending.sublist (List.filter_sublist.map Prod.fst)

theorem mem_requests_turnOver (fleet : Fleet) (launcher : Launcher) (now : Moment)
    (topology : Topology) (name : String) :
    name ∈ (fleet.turnOver launcher now topology).requests.map (·.component) ↔
      name ∈ required topology ∧ name ∉ (fleet.remaining topology).members := by
  rw [requests_turnOver, List.mem_map, Maps.mem_iff_exists]
  constructor
  · rintro ⟨⟨name, requirement⟩, listed, rfl⟩
    obtain ⟨found, lacking⟩ := mem_missing.mp listed
    exact ⟨⟨requirement, found⟩, lacking⟩
  · rintro ⟨⟨requirement, found⟩, lacking⟩
    exact ⟨(name, requirement), mem_missing.mpr ⟨found, lacking⟩, rfl⟩

theorem stopped_launchAll (launcher : Launcher) (now : Moment) (pass : Pass)
    (wanted : List (String × Requirement)) :
    (pass.launchAll launcher now wanted).outcome.stopped = pass.outcome.stopped := by
  refine launchAll_keeps (P := fun later => later.outcome.stopped = pass.outcome.stopped)
    wanted ?_ rfl
  intro entry _ later held
  rcases launch_cases launcher now later entry with ⟨_, _, same⟩ | ⟨_, _, same⟩ <;> rw [same] <;>
    exact held

/-- Answers split what was asked for without overlap, when nothing was asked for twice. -/
theorem disjoint_answers {requests : List Collector.Spec}
    (distinct : (requests.map (·.component)).Nodup) (launcher : Launcher) :
    List.Disjoint ((requests.filter launcher.accepts).map (·.component))
      ((requests.filter fun spec => !launcher.accepts spec).map (·.component)) := by
  intro name accepted refused
  obtain ⟨spec, first, rfl⟩ := List.mem_map.mp accepted
  obtain ⟨other, second, same⟩ := List.mem_map.mp refused
  obtain ⟨listed, yes⟩ := List.mem_filter.mp first
  obtain ⟨listed', no⟩ := List.mem_filter.mp second
  obtain rfl := List.inj_on_of_nodup_map distinct listed' listed same
  simp [yes] at no

/-- No component is asked for twice. -/
theorem nodup_requests_turnOver (fleet : Fleet) (launcher : Launcher) (now : Moment)
    (topology : Topology) :
    ((fleet.turnOver launcher now topology).requests.map (·.component)).Nodup := by
  rw [requests_turnOver]
  exact nodup_missing _ _

theorem disjoint_turnOver (fleet : Fleet) (launcher : Launcher) (now : Moment)
    (topology : Topology) :
    List.Disjoint (fleet.turnOver launcher now topology).outcome.started
      (fleet.turnOver launcher now topology).outcome.failed := by
  have consistent := turnOver_consistent fleet launcher now topology
  rw [consistent.started, consistent.failed]
  exact disjoint_answers (nodup_requests_turnOver fleet launcher now topology) launcher

/-- What was asked for was either started or not. -/
theorem mem_requests_iff_answered {launcher : Launcher} {now : Moment} {fleet : Fleet}
    {topology : Topology} {name : String} :
    name ∈ (fleet.turnOver launcher now topology).requests.map (·.component) ↔
      name ∈ (fleet.turnOver launcher now topology).outcome.started ∨
        name ∈ (fleet.turnOver launcher now topology).outcome.failed := by
  have consistent := turnOver_consistent fleet launcher now topology
  rw [consistent.started, consistent.failed]
  constructor
  · intro listed
    obtain ⟨spec, there, rfl⟩ := List.mem_map.mp listed
    cases answer : launcher.accepts spec with
    | true => exact Or.inl (List.mem_map.mpr ⟨spec, List.mem_filter.mpr ⟨there, answer⟩, rfl⟩)
    | false =>
      refine Or.inr (List.mem_map.mpr ⟨spec, List.mem_filter.mpr ⟨there, ?_⟩, rfl⟩)
      rw [answer]
      rfl
  · rintro (started | failed)
    · exact (List.filter_sublist.map _).subset started
    · exact (List.filter_sublist.map _).subset failed

/-- The collectors after a pass are those required, less those that could not be launched. -/
theorem mem_turnOver (fleet : Fleet) (launcher : Launcher) (now : Moment) (topology : Topology)
    (name : String) :
    name ∈ (fleet.turnOver launcher now topology).fleet.members ↔
      name ∈ required topology ∧ name ∉ (fleet.turnOver launcher now topology).outcome.failed := by
  have asked := mem_requests_turnOver fleet launcher now topology name
  rw [(turnOver_consistent fleet launcher now topology).members]
  constructor
  · rintro (survived | started)
    · obtain ⟨member, there⟩ := Maps.mem_iff_exists.mp survived
      obtain ⟨requirement, found, _⟩ := (members_remaining.mp there).2
      refine ⟨Maps.mem_iff_exists.mpr ⟨requirement, found⟩, fun failed => ?_⟩
      exact (asked.mp (mem_requests_iff_answered.mpr (Or.inr failed))).2 survived
    · exact ⟨(asked.mp (mem_requests_iff_answered.mpr (Or.inl started))).1,
        disjoint_turnOver fleet launcher now topology started⟩
  · rintro ⟨wanted, unfailed⟩
    by_cases survived : name ∈ (fleet.remaining topology).members
    · exact Or.inl survived
    · have answered := mem_requests_iff_answered.mp (asked.mpr ⟨wanted, survived⟩)
      exact Or.inr (answered.resolve_right unfailed)

theorem not_mem_remaining {fleet : Fleet} {topology : Topology} {name : String} :
    name ∉ (fleet.remaining topology).members ↔
      ¬ ∃ member, fleet.members[name]? = some member ∧ member.Wanted (required topology) name := by
  simp only [Maps.mem_iff_exists, members_remaining]

theorem stopped_turnOver (fleet : Fleet) (launcher : Launcher) (now : Moment)
    (topology : Topology) :
    (fleet.turnOver launcher now topology).outcome.stopped =
      ((fleet.begin topology).stale (required topology)).map Prod.fst :=
  stopped_launchAll launcher now ((fleet.begin topology).stopStale (required topology)) _

theorem mem_stopped_turnOver (fleet : Fleet) (launcher : Launcher) (now : Moment)
    (topology : Topology) (name : String) :
    name ∈ (fleet.turnOver launcher now topology).outcome.stopped ↔
      ∃ member, fleet.members[name]? = some member ∧ ¬ member.Wanted (required topology) name := by
  rw [stopped_turnOver, List.mem_map]
  constructor
  · rintro ⟨⟨name, member⟩, listed, rfl⟩
    exact ⟨member, mem_stale.mp listed⟩
  · rintro ⟨member, unwanted⟩
    exact ⟨(name, member), mem_stale.mpr unwanted, rfl⟩

/--
A pass leaves one collector, as required, for each required component whose launch did not fail. A
collector that is wanted as it is stays untouched, every other one is stopped, and the launcher is
asked once, in ascending order of names, for each component that is left without one.
-/
theorem reconcile_settles {fleet : Fleet} (reachable : fleet.Reachable) (launcher : Launcher)
    (write : Scrape.Document → Bool) (now : Moment) (topology : Topology) :
    let done := fleet.reconcile launcher write now topology
    let required := required topology
    let asked := done.requests.map (·.component)
    (∀ name, name ∈ done.fleet.members ↔ name ∈ required ∧ name ∉ done.outcome.failed) ∧
      (∀ (name : String) (member : Member), done.fleet.members[name]? = some member →
        member.spec.component = name ∧ member.Wanted required name) ∧
      (∀ (name : String) (member : Member), fleet.members[name]? = some member →
        member.Wanted required name →
          done.fleet.members[name]? = some member ∧ member.serial ∉ done.fleet.stopped ∧
            name ∉ asked) ∧
      (done.outcome.stopped.Nodup ∧
        ∀ name, name ∈ done.outcome.stopped ↔
          ∃ member, fleet.members[name]? = some member ∧ ¬ member.Wanted required name) ∧
      (asked.Pairwise (· < ·) ∧
        ∀ name, name ∈ asked ↔
          name ∈ required ∧
            ¬ ∃ member, fleet.members[name]? = some member ∧ member.Wanted required name) ∧
      (∀ spec ∈ done.requests,
        required[spec.component]? = some (Requirement.mk spec.function spec.address)) ∧
      done.outcome.started = (done.requests.filter launcher.accepts).map (·.component) ∧
      done.outcome.failed =
        (done.requests.filter fun spec => !launcher.accepts spec).map (·.component) ∧
      List.Disjoint done.outcome.started done.outcome.failed := by
  have numbered := turnOver_numbered reachable.numbered launcher now topology
  have consistent := turnOver_consistent fleet launcher now topology
  simp only [members_reconcile, stopped_reconcile, outcome_reconcile, requests_reconcile]
  refine ⟨mem_turnOver fleet launcher now topology, ?_, ?_, ⟨?_, ?_⟩, ⟨?_, ?_⟩, consistent.asked,
    consistent.started, consistent.failed, disjoint_turnOver fleet launcher now topology⟩
  · intro name member there
    exact ⟨numbered.named there, consistent.wanted name member there⟩
  · intro name member there wanted
    have survived := members_remaining.mpr ⟨there, wanted⟩
    have after := consistent.keeps name member survived
    refine ⟨after, numbered.live after, fun asked => ?_⟩
    exact ((mem_requests_turnOver ..).mp asked).2 (Maps.mem_iff_exists.mpr ⟨member, survived⟩)
  · exact stopped_turnOver fleet launcher now topology ▸ nodup_stale _ _
  · exact mem_stopped_turnOver fleet launcher now topology
  · exact requests_turnOver fleet launcher now topology ▸ missing_ascending _ _
  · intro name
    rw [mem_requests_turnOver, not_mem_remaining]

/-- One collector stays, one is replaced, one is only stopped and one cannot be launched. -/
theorem reconcile_settles_mixed :
    let launcher : Launcher := fun spec =>
      if spec.component = "smf" then .error "port in use"
      else .ok { port := spec.port, settings := {} }
    let fleet := (empty {}).run [.reconcile launcher (fun _ => true) ⟨0⟩ (.ofComponents
      [⟨"amf", "", "10.0.0.1", true, []⟩, ⟨"pcf", "", "10.0.0.3", true, []⟩,
        ⟨"upf", "", "10.0.0.4", true, []⟩])]
    let topology := .ofComponents
      [⟨"amf", "", "10.0.0.2", true, []⟩, ⟨"pcf", "", "10.0.0.3", true, []⟩,
        ⟨"smf", "", "10.0.0.5", true, []⟩, ⟨"upf", "", "10.0.0.4", false, []⟩]
    let done := fleet.reconcile launcher (fun _ => true) ⟨1⟩ topology
    fleet.Reachable ∧
      (∀ name, name ∈ done.fleet.members ↔
        name ∈ required topology ∧ name ∉ done.outcome.failed) ∧
      done.outcome = { started := ["amf"], stopped := ["amf", "upf"], failed := ["smf"] } := by
  intro launcher fleet topology done
  have reachable : fleet.Reachable := ⟨{}, _, rfl⟩
  exact ⟨reachable, (reconcile_settles reachable launcher (fun _ => true) ⟨1⟩ topology).1,
    by decide +kernel⟩

end CoreWatch.Fleet
