import CoreWatch.Proofs.Containers.CpuShare
import CoreWatch.Proofs.Topology.Running
import CoreWatch.Sampler.Sweep

set_option autoImplicit false

/-!
What one sweep does: it asks for the containers of running components in ascending order of names
until it is told to stop, and takes in each document that it is given. What it does not get to
stays as it was.
-/

namespace CoreWatch.Sampler

/-! Calls -/

/-- Whether a sweep is told to stop during a call. -/
def Call.stops {α : Type} : Call α → Bool
  | .answered _ stop => stop
  | .abandoned => true

/-- What a call brings, if it brings anything. -/
def Call.answer? {α : Type} : Call α → Option α
  | .answered (.ok answer) _ => some answer
  | _ => none

/-- Whether a call ends, with or without an answer. -/
def Call.ends {α : Type} : Call α → Bool
  | .answered .. => true
  | .abandoned => false

/-- The components that have a container, with its id. -/
def withContainer (containers : List Container) (names : List String) : List (String × String) :=
  names.filterMap fun name => (idOf? containers name).map (name, ·)

/-- The containers that a sweep gets to ask for: none any more once it is told to stop. -/
def asked (host : Host) : Bool → List (String × String) → List (String × String)
  | _, [] => []
  | true, _ :: _ => []
  | false, target :: rest => target :: asked host (host.stats target.2).stops rest

/-- The document that is read of a container, if there is one. -/
def reading? (host : Host) (clock : String → Int) (target : String × String) :
    Option Container.Reading :=
  (host.stats target.2).answer?.map fun stats => ⟨target.2, target.1, stats, clock target.1⟩

/-- The documents that are read of several containers. -/
def readings (host : Host) (clock : String → Int) (targets : List (String × String)) :
    List Container.Reading :=
  targets.filterMap (reading? host clock)

@[simp] theorem asked_nil (host : Host) (stopped : Bool) : asked host stopped [] = [] := by
  cases stopped <;> rfl

@[simp] theorem asked_stopped (host : Host) (targets : List (String × String)) :
    asked host true targets = [] := by
  cases targets <;> rfl

@[simp] theorem asked_cons (host : Host) (target : String × String)
    (rest : List (String × String)) :
    asked host false (target :: rest) = target :: asked host (host.stats target.2).stops rest :=
  rfl

theorem withContainer_cons_none {containers : List Container} {name : String}
    {rest : List String} (none : idOf? containers name = none) :
    withContainer containers (name :: rest) = withContainer containers rest := by
  rw [withContainer, List.filterMap_cons, none]
  rfl

theorem withContainer_cons_some {containers : List Container} {name id : String}
    {rest : List String} (found : idOf? containers name = some id) :
    withContainer containers (name :: rest) = (name, id) :: withContainer containers rest := by
  rw [withContainer, List.filterMap_cons, found]
  rfl

theorem asked_prefix (host : Host) (stopped : Bool) (targets : List (String × String)) :
    asked host stopped targets <+: targets := by
  induction targets generalizing stopped with
  | nil => rw [asked_nil]
  | cons target rest ih =>
    cases stopped with
    | true => exact List.nil_prefix
    | false => exact List.cons_prefix_cons.mpr ⟨rfl, ih _⟩

/-- Only the last container that is asked for can be one at which the sweep is told to stop. -/
theorem goesOn_of_mem_asked {host : Host} {stopped : Bool} {targets : List (String × String)}
    {target : String × String} (early : target ∈ (asked host stopped targets).dropLast) :
    (host.stats target.2).stops = false := by
  induction targets generalizing stopped with
  | nil =>
    rw [asked_nil] at early
    cases early
  | cons first rest ih =>
    cases stopped with
    | true => cases early
    | false =>
      rw [asked_cons] at early
      cases stops : (host.stats first.2).stops with
      | true =>
        rw [stops, asked_stopped] at early
        cases early
      | false =>
        rw [stops] at early
        cases later : asked host false rest with
        | nil =>
          rw [later] at early
          cases early
        | cons second others =>
          rw [later, List.dropLast_cons_cons] at early
          rcases List.mem_cons.mp early with rfl | inside
          · exact stops
          · exact ih (later ▸ inside)

/-! Documents -/

/-- Takes in several documents, one after another. -/
def recordAll (sampler : Sampler) (readings : List Container.Reading) : Sampler :=
  readings.foldl
    (fun sampler reading => sampler.record reading.name reading.id reading.stats reading.now)
    sampler

@[simp] theorem tally_record (sampler : Sampler) (name id : String) (stats : Json) (now : Int) :
    (sampler.record name id stats now).tally = sampler.tally :=
  rfl

@[simp] theorem tally_recordAll (sampler : Sampler) (readings : List Container.Reading) :
    (sampler.recordAll readings).tally = sampler.tally := by
  induction readings generalizing sampler with
  | nil => rfl
  | cons first rest ih => exact (ih _).trans (tally_record ..)

theorem recordAll_append (sampler : Sampler) (first second : List Container.Reading) :
    sampler.recordAll (first ++ second) = (sampler.recordAll first).recordAll second :=
  List.foldl_append

theorem readings_append (host : Host) (clock : String → Int)
    (first second : List (String × String)) :
    readings host clock (first ++ second) =
      readings host clock first ++ readings host clock second :=
  List.filterMap_append

/-! The loop over the containers -/

/-- What the loop comes to that asks for containers, from where it stands. -/
structure Visited (host : Host) (clock : String → Int) (before : Sweep)
    (targets : List (String × String)) (result : Sweep × Option SweepFault) : Prop where
  sampler : result.1.sampler =
    before.sampler.recordAll (readings host clock (asked host before.stopped targets))
  questions : result.1.questions =
    before.questions ++ (asked host before.stopped targets).map fun target => .stats target.2
  sampled : result.1.sampled =
    before.sampled + (readings host clock (asked host before.stopped targets)).length
  fault : result.2 =
    if asked host before.stopped targets = targets ∧
        ∀ target ∈ targets, (host.stats target.2).ends = true then none
    else some .cancelled

/-- A container that is asked for comes before those that follow. -/
theorem Visited.cons {host : Host} {clock : String → Int} {before next : Sweep}
    {target : String × String}
    {rest : List (String × String)} {result : Sweep × Option SweepFault}
    (visited : Visited host clock next rest result) (unstopped : before.stopped = false)
    (ends : (host.stats target.2).ends = true)
    (stopped : next.stopped = (host.stats target.2).stops)
    (sampler : next.sampler = before.sampler.recordAll (readings host clock [target]))
    (questions : next.questions = before.questions ++ [.stats target.2])
    (sampled : next.sampled = before.sampled + (readings host clock [target]).length) :
    Visited host clock before (target :: rest) result where
  sampler := by
    rw [visited.sampler, sampler, ← recordAll_append, ← readings_append, unstopped, stopped]
    rfl
  questions := by
    rw [visited.questions, questions, unstopped, asked_cons, stopped, List.append_assoc]
    rfl
  sampled := by
    rw [visited.sampled, sampled, unstopped, asked_cons, stopped, Nat.add_assoc,
      ← List.length_append, ← readings_append]
    rfl
  fault := by
    rw [visited.fault, unstopped, asked_cons, stopped]
    simp only [List.cons.injEq, true_and, List.forall_mem_cons, ends]

theorem visit_visited (host : Host) (containers : List Container) (clock : String → Int)
    (names : List String) (sweep : Sweep) :
    Visited host clock sweep (withContainer containers names)
      (Sweep.visit host containers clock names sweep) := by
  induction names generalizing sweep with
  | nil =>
    refine ⟨?_, ?_, ?_, ?_⟩ <;> simp [Sweep.visit, withContainer, readings, recordAll]
  | cons name rest ih =>
    rw [Sweep.visit]
    cases found : idOf? containers name with
    | none =>
      rw [withContainer_cons_none found]
      exact ih sweep
    | some id =>
      rw [withContainer_cons_some found]
      cases unstopped : sweep.stopped with
      | true =>
        refine ⟨?_, ?_, ?_, ?_⟩ <;> simp [unstopped, readings, recordAll]
      | false =>
        cases call : host.stats id with
        | abandoned =>
          refine ⟨?_, ?_, ?_, ?_⟩ <;>
            simp [unstopped, call, readings, recordAll, reading?, Call.answer?, Call.stops,
              Call.ends]
        | answered result stop =>
          have ends : (host.stats id).ends = true := by rw [call]; rfl
          have stops : stop = (host.stats id).stops := by rw [call]; rfl
          simp only [Bool.false_eq_true, ↓reduceIte, call]
          cases result with
          | error fault =>
            have none : readings host clock [(name, id)] = [] := by
              simp [readings, reading?, call, Call.answer?]
            apply Visited.cons (ih _) unstopped ends
            · exact stops
            · rw [none]
              rfl
            · rfl
            · rw [none]
              rfl
          | ok stats =>
            have one : readings host clock [(name, id)] = [⟨id, name, stats, clock name⟩] := by
              simp [readings, reading?, call, Call.answer?]
            apply Visited.cons (ih _) unstopped ends
            · exact stops
            · rw [one]
              rfl
            · rfl
            · rw [one]
              rfl

/-! A whole sweep -/

/-- What one sweep meets: the topology, the container host, and whether it is to stop at once. -/
structure Round where
  topology : Topology
  named : topology.Named
  host : Host
  stopped : Bool
  /-- When the statistics of each component are taken in. -/
  clock : String → Int

namespace Round

/-- The running components that have a container, in ascending order of names. -/
def targets (round : Round) : List (String × String) :=
  withContainer (round.host.list.answer?.getD []) round.topology.runningNames

/-- Those of them whose container is asked for. -/
def asked (round : Round) : List (String × String) :=
  Sampler.asked round.host (round.stopped || round.host.list.stops) round.targets

/-- The documents that the sweep is given. -/
def readings (round : Round) : List Container.Reading :=
  Sampler.readings round.host round.clock round.asked

/-- Why the sweep ends early, if it does. -/
def fault? (round : Round) : Option SweepFault :=
  if round.topology.running.isEmpty then none
  else if round.stopped then some .cancelled
  else
    match round.host.list with
    | .abandoned => some .cancelled
    | .answered (.error fault) _ => some (.host fault)
    | .answered (.ok _) _ =>
      if round.asked = round.targets ∧
          ∀ target ∈ round.targets, (round.host.stats target.2).ends = true then none
      else some .cancelled

def sweep (round : Round) (sampler : Sampler) : SweepResult :=
  sampler.sweep round.topology round.host round.stopped round.clock

end Round

/-- What a sweep leaves: what belongs to running components, with the documents taken in. -/
structure Swept (round : Round) (before : Sampler) (result : SweepResult) : Prop where
  usages : result.sampler.usages =
    ((before.retain round.topology).recordAll round.readings).usages
  counters : result.sampler.counters =
    ((before.retain round.topology).recordAll round.readings).counters
  questions : result.questions =
    if round.topology.running.isEmpty || round.stopped then []
    else .list :: round.asked.map fun target => .stats target.2
  outcome : result.outcome =
    match round.fault? with
    | none => .ok round.readings.length
    | some fault => .error fault
  /-- Only a sweep that reaches its end is counted. -/
  tally : result.sampler.tally =
    match round.fault? with
    | none => (before.tally.bump .samplerSweeps).set .containersSampled round.readings.length
    | some _ => before.tally

theorem withContainer_nil (names : List String) : withContainer [] names = [] := by
  refine List.filterMap_eq_nil_iff.mpr fun name _ => ?_
  rfl

/-- A sweep asks for no container unless it is given a list of them and may go on then. -/
theorem Round.asked_eq_nil {round : Round}
    (barred : round.topology.running.isEmpty = true ∨ round.stopped = true ∨
      round.host.list.stops = true ∨ round.host.list.answer? = none) : round.asked = [] := by
  rcases barred with none | stopped | stops | unanswered
  · have names : round.topology.runningNames = [] := by
      rw [Topology.runningNames, List.isEmpty_iff.mp none, List.map_nil]
    rw [asked, targets, names]
    exact asked_nil _ _
  · rw [asked, stopped, Bool.true_or, asked_stopped]
  · rw [asked, stops, Bool.or_true, asked_stopped]
  · rw [asked, targets, unanswered, Option.getD_none, withContainer_nil, asked_nil]

/-- A sweep that asks for no container only drops what is not running. -/
theorem Swept.of_unasked {round : Round} {before : Sampler} {result : SweepResult}
    (unasked : round.asked = [])
    (usages : result.sampler.usages = (before.retain round.topology).usages)
    (counters : result.sampler.counters = (before.retain round.topology).counters)
    (questions : result.questions =
      if round.topology.running.isEmpty || round.stopped then [] else [.list])
    (outcome : result.outcome =
      match round.fault? with
      | none => .ok 0
      | some fault => .error fault)
    (tally : result.sampler.tally =
      match round.fault? with
      | none => (before.tally.bump .samplerSweeps).set .containersSampled 0
      | some _ => before.tally) : Swept round before result := by
  have unread : round.readings = [] := by
    rw [Round.readings, unasked]
    rfl
  refine ⟨?_, ?_, ?_, ?_, ?_⟩
  · rw [unread]
    exact usages
  · rw [unread]
    exact counters
  · rw [unasked]
    exact questions
  · rw [unread]
    exact outcome
  · rw [unread]
    exact tally

/-- A sweep ends early if the loop over the containers does. -/
def conclude : Sweep × Option SweepFault → SweepResult
  | (sweep, none) => sweep.finish
  | (sweep, some fault) => sweep.fail fault

/-- A sweep that is given the containers does what the loop over them does. -/
theorem Swept.of_visited {round : Round} {before : Sampler} {containers : List Container}
    {stop : Bool} (running : round.topology.running.isEmpty = false)
    (unstopped : round.stopped = false)
    (listed : round.host.list = .answered (.ok containers) stop)
    {visit : Sweep × Option SweepFault}
    (visited : Visited round.host round.clock ⟨before.retain round.topology, stop, [.list], 0⟩
      (withContainer containers round.topology.runningNames) visit) :
    Swept round before (conclude visit) := by
  obtain ⟨sweep, fault⟩ := visit
  have targets : round.targets = withContainer containers round.topology.runningNames := by
    rw [Round.targets, listed]
    rfl
  have asked : round.asked =
      Sampler.asked round.host stop (withContainer containers round.topology.runningNames) := by
    rw [Round.asked, targets, unstopped, listed]
    rfl
  have ended : fault = round.fault? := by
    refine visited.fault.trans ?_
    rw [Round.fault?, running, unstopped, listed, asked, targets]
    rfl
  have taken : sweep.sampler = (before.retain round.topology).recordAll round.readings := by
    rw [Round.readings, asked]
    exact visited.sampler
  have counted : sweep.sampled = round.readings.length := by
    rw [Round.readings, asked, visited.sampled, Nat.zero_add]
  have questions : sweep.questions =
      .list :: round.asked.map fun target => .stats target.2 := by
    rw [asked]
    exact visited.questions
  have uncounted : sweep.sampler.tally = before.tally := by
    rw [taken, tally_recordAll]
    rfl
  refine ⟨?_, ?_, ?_, ?_, ?_⟩
  · rw [← taken]
    cases fault <;> rfl
  · rw [← taken]
    cases fault <;> rfl
  · rw [running, unstopped, ← questions]
    cases fault <;> rfl
  · rw [← counted, ← ended]
    cases fault <;> rfl
  · rw [← counted, ← ended, ← uncounted]
    cases fault <;> rfl

theorem sweep_swept (round : Round) (before : Sampler) :
    Swept round before (round.sweep before) := by
  rw [Round.sweep, sweep]
  cases running : round.topology.running.isEmpty with
  | true =>
    refine .of_unasked (Round.asked_eq_nil (.inl running)) rfl rfl ?_ ?_ ?_
    · simp [running, Sweep.finish]
    · simp [Round.fault?, running, Sweep.finish]
    · simp only [Round.fault?, running]
      rfl
  | false =>
    cases stopped : round.stopped with
    | true =>
      refine .of_unasked (Round.asked_eq_nil (.inr (.inl stopped))) rfl rfl ?_ ?_ ?_
      · simp [running, stopped, Sweep.fail]
      · simp [Round.fault?, running, stopped, Sweep.fail]
      · simp only [Round.fault?, running, stopped]
        rfl
    | false =>
      cases list : round.host.list with
      | abandoned =>
        have stops : round.host.list.stops = true := by rw [list]; rfl
        refine .of_unasked (Round.asked_eq_nil (.inr (.inr (.inl stops)))) rfl rfl ?_ ?_ ?_
        · simp [running, stopped, Sweep.fail]
        · simp [Round.fault?, running, stopped, list, Sweep.fail]
        · simp only [Round.fault?, running, stopped, list]
          rfl
      | answered result stop =>
        cases result with
        | error fault =>
          have unanswered : round.host.list.answer? = none := by rw [list]; rfl
          refine .of_unasked (Round.asked_eq_nil (.inr (.inr (.inr unanswered)))) rfl rfl ?_ ?_ ?_
          · simp [running, stopped, Sweep.fail]
          · simp [Round.fault?, running, stopped, list, Sweep.fail]
          · simp only [Round.fault?, running, stopped, list]
            rfl
        | ok containers =>
          exact .of_visited running stopped list (visit_visited ..)

end CoreWatch.Sampler
