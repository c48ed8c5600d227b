import CoreWatch.Proofs.Sampler.Sweep
import Mathlib.Data.List.DropRight

set_option autoImplicit false

/-!
What any number of sweeps leave behind, however each of them ends: the latest usage of a running
component is that of the latest document read of it since it was last seen not running, and the
counters with which the next one is compared are those that the documents since then have left.
-/

namespace CoreWatch.Sampler

open Container (Reading baseline baseline_concat)

/-- The sampler after sweeps one after the other. -/
def run (rounds : List Round) : Sampler :=
  rounds.foldl (fun sampler round => (round.sweep sampler).sampler) .empty

/-- The longest run of sweeps up to now in all of which a component was running. -/
def stretch (rounds : List Round) (name : String) : List Round :=
  rounds.rtakeWhile fun round => round.topology.isRunning name

/-- The documents that are read of a component in the sweeps of its present stretch. -/
def documents (rounds : List Round) (name : String) : List Reading :=
  (stretch rounds name).flatMap fun round => round.readings.filter (·.name == name)

/-- What the latest of several documents tells, compared with those before it. -/
def latestUsage? (readings : List Reading) : Option Container.Usage :=
  readings.getLast?.map fun last => last.usage (baseline readings.dropLast)

/-- A sampler that holds of a component what several documents of it leave behind. -/
structure Tells (sampler : Sampler) (name : String) (readings : List Reading) : Prop where
  usage : sampler.usages[name]? = latestUsage? readings
  counters : sampler.counters[name]? = baseline readings

theorem latestUsage?_concat (readings : List Reading) (reading : Reading) :
    latestUsage? (readings ++ [reading]) = some (reading.usage (baseline readings)) := by
  rw [latestUsage?, List.getLast?_concat, List.dropLast_concat]
  rfl

/-! Sweeps one after the other -/

section

variable (rounds : List Round) (last : Round) {name : String}

theorem run_concat : run (rounds ++ [last]) = (last.sweep (run rounds)).sampler := by
  rw [run, run, List.foldl_concat]

theorem documents_concat_of_running (running : last.topology.isRunning name = true) :
    documents (rounds ++ [last]) name =
      documents rounds name ++ last.readings.filter (·.name == name) := by
  rw [documents, stretch, List.rtakeWhile_concat_pos _ rounds last running, List.flatMap_append,
    List.flatMap_singleton]
  rfl

theorem documents_concat_of_stopped (stopped : ¬ last.topology.isRunning name = true) :
    documents (rounds ++ [last]) name = [] := by
  rw [documents, stretch, List.rtakeWhile_concat_neg _ rounds last stopped, List.flatMap_nil]

end

/-! The names of documents -/

theorem names_withContainer_sublist (containers : List Container) (names : List String) :
    ((withContainer containers names).map Prod.fst).Sublist names := by
  induction names with
  | nil => exact List.Sublist.refl []
  | cons name rest ih =>
    cases found : idOf? containers name with
    | none =>
      rw [withContainer_cons_none found]
      exact ih.cons name
    | some id =>
      rw [withContainer_cons_some found]
      exact ih.cons_cons name

theorem names_readings_sublist (host : Host) (clock : String → Int)
    (targets : List (String × String)) :
    ((readings host clock targets).map (·.name)).Sublist (targets.map Prod.fst) := by
  induction targets with
  | nil => exact List.Sublist.refl []
  | cons target rest ih =>
    rw [readings, List.filterMap_cons]
    cases read : reading? host clock target with
    | none => exact ih.cons target.1
    | some reading =>
      obtain ⟨stats, -, rfl⟩ := Option.map_eq_some_iff.mp read
      exact ih.cons_cons target.1

/-- Containers are asked for in ascending order of names. -/
theorem Round.targets_ascending (round : Round) :
    (round.targets.map Prod.fst).Pairwise (· < ·) :=
  round.named.runningNames_ascending.sublist (names_withContainer_sublist ..)

theorem Round.asked_prefix (round : Round) : round.asked <+: round.targets :=
  Sampler.asked_prefix ..

/-- Documents are read in ascending order of names, too. -/
theorem Round.readings_ascending (round : Round) :
    (round.readings.map (·.name)).Pairwise (· < ·) :=
  round.targets_ascending.sublist
    ((names_readings_sublist ..).trans (round.asked_prefix.sublist.map Prod.fst))

theorem Round.isRunning_of_mem_readings {round : Round} {reading : Reading}
    (read : reading ∈ round.readings) : round.topology.isRunning reading.name = true := by
  have target := (names_readings_sublist ..).subset (List.mem_map_of_mem read)
  have listed := (round.asked_prefix.sublist.map Prod.fst).subset target
  exact round.named.mem_runningNames.mp ((names_withContainer_sublist ..).subset listed)

/-- A component that is not running has no documents. -/
theorem Round.filter_readings_of_stopped {round : Round} {name : String}
    (stopped : ¬ round.topology.isRunning name = true) :
    round.readings.filter (·.name == name) = [] := by
  refine List.filter_eq_nil_iff.mpr fun reading read same => stopped ?_
  rw [← eq_of_beq same]
  exact Round.isRunning_of_mem_readings read

/-! What the sampler holds of one component -/

theorem counters_eq_none {reading : Reading} {previous : Option Container.CpuCounters}
    (none : reading.counters previous = none) : previous = Option.none := by
  cases filled : Container.filledCounters? reading.stats with
  | none =>
    obtain ⟨-, unchanged, -⟩ := Container.read_unfilled previous filled
    exact unchanged.symm.trans none
  | some current =>
    rw [(Container.read_filled previous filled).2] at none
    cases none

theorem usages_record (sampler : Sampler) (reading : Reading) (name : String) :
    (sampler.record reading.name reading.id reading.stats reading.now).usages[name]? =
      if reading.name = name then some (reading.usage sampler.counters[reading.name]?)
      else sampler.usages[name]? :=
  Maps.getElem?_insert ..

theorem counters_record (sampler : Sampler) (reading : Reading) (name : String) :
    (sampler.record reading.name reading.id reading.stats reading.now).counters[name]? =
      if reading.name = name then reading.counters sampler.counters[reading.name]?
      else sampler.counters[name]? := by
  rcases read : Container.Usage.ofStats reading.stats reading.id reading.name
      sampler.counters[reading.name]? reading.now with ⟨usage, _ | counters⟩
  · have left : reading.counters sampler.counters[reading.name]? = none := congrArg Prod.snd read
    simp only [Sampler.record, read, left]
    by_cases same : reading.name = name
    · rw [if_pos same, ← same]
      exact counters_eq_none left
    · rw [if_neg same]
  · have left : reading.counters sampler.counters[reading.name]? = some counters :=
      congrArg Prod.snd read
    simp only [Sampler.record, read, left]
    exact Maps.getElem?_insert ..

section

variable {sampler : Sampler} {name : String} {earlier : List Reading}

/-- A document of a component follows its earlier ones; those of others change nothing. -/
theorem Tells.record (tells : Tells sampler name earlier) (reading : Reading) :
    Tells (sampler.record reading.name reading.id reading.stats reading.now) name
      (earlier ++ [reading].filter (·.name == name)) := by
  by_cases same : reading.name = name
  · have previous : sampler.counters[reading.name]? = baseline earlier := same ▸ tells.counters
    have own : [reading].filter (·.name == name) = [reading] :=
      List.filter_cons_of_pos (beq_iff_eq.mpr same)
    rw [own]
    constructor
    · rw [usages_record, if_pos same, previous, latestUsage?_concat]
    · rw [counters_record, if_pos same, previous, baseline_concat]
  · have foreign : [reading].filter (·.name == name) = [] :=
      List.filter_cons_of_neg fun equal => same (eq_of_beq equal)
    rw [foreign, List.append_nil]
    constructor
    · rw [usages_record, if_neg same, tells.usage]
    · rw [counters_record, if_neg same, tells.counters]

theorem Tells.recordAll (tells : Tells sampler name earlier) (readings : List Reading) :
    Tells (sampler.recordAll readings) name
      (earlier ++ readings.filter (·.name == name)) := by
  induction readings using List.reverseRecOn with
  | nil =>
    rw [List.filter_nil, List.append_nil]
    exact tells
  | append_singleton readings reading ih =>
    rw [recordAll_append, List.filter_append, ← List.append_assoc]
    exact ih.record reading

/-- What is held of a running component is kept. -/
theorem Tells.retain (tells : Tells sampler name earlier) {topology : Topology}
    (running : topology.isRunning name = true) :
    Tells (sampler.retain topology) name earlier := by
  constructor
  · exact (Maps.getElem?_filter ..).trans ((if_pos running).trans tells.usage)
  · exact (Maps.getElem?_filter ..).trans ((if_pos running).trans tells.counters)

end

/-- Nothing is kept of a component that is not running. -/
theorem tells_retain_stopped (sampler : Sampler) {topology : Topology} {name : String}
    (stopped : ¬ topology.isRunning name = true) : Tells (sampler.retain topology) name [] := by
  constructor
  · exact (Maps.getElem?_filter ..).trans (if_neg stopped)
  · exact (Maps.getElem?_filter ..).trans (if_neg stopped)

/-- However it ends, a sweep takes in the documents that it has read. -/
theorem Tells.sweep {sampler : Sampler} {name : String} {earlier : List Reading} {round : Round}
    (kept : Tells (sampler.retain round.topology) name earlier) :
    Tells (round.sweep sampler).sampler name
      (earlier ++ round.readings.filter (·.name == name)) := by
  have swept := sweep_swept round sampler
  have tells := kept.recordAll round.readings
  exact ⟨swept.usages ▸ tells.usage, swept.counters ▸ tells.counters⟩

/-- After any number of sweeps the sampler holds of each component the documents of its stretch. -/
theorem run_tells (rounds : List Round) (name : String) :
    Tells (run rounds) name (documents rounds name) := by
  induction rounds using List.reverseRecOn with
  | nil => exact ⟨Std.ExtTreeMap.getElem?_empty, Std.ExtTreeMap.getElem?_empty⟩
  | append_singleton rounds last ih =>
    rw [run_concat]
    by_cases running : last.topology.isRunning name = true
    · rw [documents_concat_of_running rounds last running]
      exact (ih.retain running).sweep
    · -- What was held is dropped, and the sweep itself does not ask for the component.
      have swept := (tells_retain_stopped (run rounds) running).sweep
      rw [last.filter_readings_of_stopped running] at swept
      rw [documents_concat_of_stopped rounds last running]
      exact swept

/-! One more sweep -/

theorem isRunning_of_run {rounds : List Round} {last : Round} {name : String}
    (held : name ∈ (run (rounds ++ [last])).usages ∨ name ∈ (run (rounds ++ [last])).counters) :
    last.topology.isRunning name = true := by
  by_contra stopped
  have tells := run_tells (rounds ++ [last]) name
  rw [documents_concat_of_stopped rounds last stopped] at tells
  rcases held with held | held
  · obtain ⟨usage, found⟩ := Maps.mem_iff_exists.mp held
    cases found.symm.trans tells.usage
  · obtain ⟨counters, found⟩ := Maps.mem_iff_exists.mp held
    cases found.symm.trans tells.counters

/-- Each document of a sweep is compared with the counters that the earlier ones have left. -/
theorem usage_of_mem_readings (rounds : List Round) {last : Round} {reading : Reading}
    (read : reading ∈ last.readings) :
    (run (rounds ++ [last])).usages[reading.name]? =
      some (reading.usage (baseline (documents rounds reading.name))) := by
  have distinct : (last.readings.map (·.name)).Nodup :=
    last.readings_ascending.imp fun before => String.ne_of_lt before
  have single := Maps.filter_key_eq distinct read
  have running := Round.isRunning_of_mem_readings read
  rw [(run_tells _ reading.name).usage, documents_concat_of_running rounds last running, single,
    latestUsage?_concat]

/-- A container of which no document came before shows no share of processor time. -/
theorem cpuPercent_first (reading : Reading) :
    (reading.usage none).cpuPercent = .zero false := by
  cases filled : Container.filledCounters? reading.stats with
  | none => exact (Container.read_unfilled none filled).1
  | some current => exact (Container.read_filled none filled).1

/-- What is held of a running component stays until a document of it is read. -/
theorem run_unread (rounds : List Round) {last : Round} {name : String}
    (running : last.topology.isRunning name = true)
    (unread : ∀ reading ∈ last.readings, reading.name ≠ name) :
    (run (rounds ++ [last])).usages[name]? = (run rounds).usages[name]? ∧
      (run (rounds ++ [last])).counters[name]? = (run rounds).counters[name]? := by
  have before := run_tells rounds name
  have after := run_tells (rounds ++ [last]) name
  have none : last.readings.filter (·.name == name) = [] :=
    List.filter_eq_nil_iff.mpr fun reading read same => unread reading read (eq_of_beq same)
  rw [documents_concat_of_running rounds last running, none, List.append_nil] at after
  exact ⟨after.usage.trans before.usage.symm, after.counters.trans before.counters.symm⟩

/-- Whether a sweep is told to stop during the call for a question. -/
def Host.stops (host : Host) : Question → Bool
  | .list => host.list.stops
  | .stats id => (host.stats id).stops

/-- Only the last question of a sweep can be one at which it is told to stop. -/
theorem goesOn_of_mem_questions {round : Round} {question : Question}
    (early : question ∈ (Question.list :: round.asked.map fun target => .stats target.2).dropLast) :
    round.host.stops question = false := by
  cases asked : round.asked with
  | nil =>
    rw [asked] at early
    cases early
  | cons first rest =>
    rw [asked, List.map_cons, List.dropLast_cons_cons] at early
    rcases List.mem_cons.mp early with rfl | inside
    · -- Had it been told to stop by then, no container would have been asked for.
      cases stops : (round.stopped || round.host.list.stops) with
      | true =>
        rw [Round.asked, stops, asked_stopped] at asked
        cases asked
      | false => exact (Bool.or_eq_false_iff.mp stops).2
    · have inside : question ∈ (round.asked.map fun target => .stats target.2).dropLast :=
        asked ▸ inside
      rw [← List.map_dropLast] at inside
      obtain ⟨target, before, rfl⟩ := List.mem_map.mp inside
      exact goesOn_of_mem_asked before

/-- A sweep that reaches its end has asked for every container. -/
theorem Round.asked_eq_targets {round : Round} (ended : round.fault? = none) :
    round.asked = round.targets := by
  rw [Round.fault?] at ended
  split at ended
  next idle =>
    have empty : round.targets = [] := by
      rw [targets, Topology.runningNames, List.isEmpty_iff.mp idle]
      rfl
    rw [Round.asked_eq_nil (.inl idle), empty]
  next =>
    split at ended
    next => cases ended
    next =>
      split at ended
      next => cases ended
      next => cases ended
      next =>
        split at ended
        next all => exact all.1
        next => cases ended

/--
However the sweeps end, exactly what the documents of its present stretch leave behind is held of
each component, and so nothing of one that is not running: the usage of the latest document,
compared with the counters that those before it have left, where a first document shows no share of
processor time. A sweep asks for the containers of running components in ascending order of names
until it is told to stop, and asks nothing after that. What it has read up to then it keeps, and
what is held of the other running components stays as it was. If it reaches its end, it has asked
for all of them and is counted, with the number of documents that it has read.
-/
theorem sweeps_follow_documents (rounds : List Round) (last : Round) :
    let before := run rounds
    let result := last.sweep before
    let after := run (rounds ++ [last])
    (∀ name, name ∈ after.usages ∨ name ∈ after.counters →
        last.topology.isRunning name = true) ∧
      (∀ name, after.usages[name]? = latestUsage? (documents (rounds ++ [last]) name) ∧
        after.counters[name]? = baseline (documents (rounds ++ [last]) name)) ∧
      (∀ reading ∈ last.readings,
        let earlier := documents rounds reading.name
        after.usages[reading.name]? = some (reading.usage (baseline earlier)) ∧
          (earlier = [] → (reading.usage (baseline earlier)).cpuPercent = .zero false)) ∧
      (∀ name, last.topology.isRunning name = true →
        (∀ reading ∈ last.readings, reading.name ≠ name) →
          after.usages[name]? = before.usages[name]? ∧
            after.counters[name]? = before.counters[name]?) ∧
      (last.targets.map Prod.fst).Pairwise (· < ·) ∧ last.asked <+: last.targets ∧
      (result.questions =
        if last.topology.running.isEmpty || last.stopped then []
        else .list :: last.asked.map fun target => .stats target.2) ∧
      (∀ question ∈ result.questions.dropLast, last.host.stops question = false) ∧
      match last.fault? with
      | none =>
        result.outcome = .ok last.readings.length ∧ last.asked = last.targets ∧
          after.tally =
            (before.tally.bump .samplerSweeps).set .containersSampled last.readings.length
      | some fault => result.outcome = .error fault ∧ after.tally = before.tally := by
  intro before result after
  have swept := sweep_swept last before
  have stepped : after = result.sampler := run_concat rounds last
  refine ⟨fun name => isRunning_of_run, fun name => ?_, fun reading read => ?_,
    fun name => run_unread rounds, last.targets_ascending, last.asked_prefix, swept.questions,
    fun question early => ?_, ?_⟩
  · have tells := run_tells (rounds ++ [last]) name
    exact ⟨tells.usage, tells.counters⟩
  · refine ⟨usage_of_mem_readings rounds read, fun first => ?_⟩
    rw [first]
    exact cpuPercent_first reading
  · rw [swept.questions] at early
    split at early
    next => cases early
    next => exact goesOn_of_mem_questions early
  · have outcome := swept.outcome
    have tally := swept.tally
    rw [stepped]
    cases ending : last.fault? with
    | none =>
      rw [ending] at outcome tally
      exact ⟨outcome, Round.asked_eq_targets ending, tally⟩
    | some fault =>
      rw [ending] at outcome tally
      exact ⟨outcome, tally⟩

/-- A sweep that is told to stop while the first of two containers answers. -/
example :
    let components : List Component :=
      [⟨"smf", "", "10.0.0.2", true, []⟩, ⟨"amf", "", "10.0.0.1", true, []⟩]
    let container (id name : String) : Container := ⟨id, name, "running", "", none, [], []⟩
    let round : Round :=
      { topology := .ofComponents components
        named := Topology.ofComponents_named components
        host :=
          { list := .answered (.ok [container "a1" "amf", container "b2" "smf"]) false
            stats := fun _ => .answered (.ok (.obj [])) true }
        stopped := false
        clock := fun _ => 0 }
    (round.sweep .empty).questions = [.list, .stats "a1"] ∧
      (run [round]).usages.keys = ["amf"] ∧ round.fault? = some .cancelled := by
  decide +kernel

end CoreWatch.Sampler
