import CoreWatch.Proofs.Prober.SuccessRate
import CoreWatch.Proofs.Prober.Sweep
import Mathlib.Data.List.DropRight
import Mathlib.Tactic.Positivity

set_option autoImplicit false

/-!
What any number of sweeps leave behind: the history of a running component is that of the checks
made since it was last seen not running, and its counts and its rate are those of their results.
-/

namespace CoreWatch.Prober

/-- What a check has shown, and when. -/
structure Finding where
  check : Check
  result : ProbeResult
  now : Int

def Finding.failed (finding : Finding) : Bool :=
  finding.result.condition.isFailure

/-- What one sweep meets: the topology, the answers to its checks and the time. -/
structure Round where
  topology : Topology
  named : topology.Named
  probe : Check → ProbeResult
  now : Int

/-- What a sweep finds out about a component, if it has a check. -/
def finding? (policy : CheckPolicy) (name : String) (round : Round) : Option Finding :=
  (checkFor? policy round.topology name).map fun check => ⟨check, round.probe check, round.now⟩

/-- The prober after sweeps one after the other. -/
def run (policy : CheckPolicy) (rounds : List Round) : Prober :=
  rounds.foldl (fun prober round => prober.sweep policy round.topology round.probe round.now) .empty

/-- The longest run of sweeps up to now in all of which a component was running. -/
def stretch (rounds : List Round) (name : String) : List Round :=
  rounds.rtakeWhile fun round => round.topology.isRunning name

/-- What the sweeps of the present stretch have found out about a component. -/
def findings (policy : CheckPolicy) (rounds : List Round) (name : String) : List Finding :=
  (stretch rounds name).filterMap (finding? policy name)

/-! Replay -/

/-- The history that several findings make. -/
def History.replay (name : String) (findings : List Finding) : History :=
  findings.foldl (fun history finding => history.record finding.check finding.result finding.now)
    (.unknown name)

theorem History.replay_concat (name : String) (findings : List Finding) (finding : Finding) :
    History.replay name (findings ++ [finding]) =
      (History.replay name findings).record finding.check finding.result finding.now := by
  rw [replay, replay, List.foldl_concat]

section

variable (policy : CheckPolicy) (rounds : List Round) (last : Round) {name : String}

theorem run_concat :
    run policy (rounds ++ [last]) =
      (run policy rounds).sweep policy last.topology last.probe last.now := by
  rw [run, run, List.foldl_concat]

theorem stretch_concat_of_running (running : last.topology.isRunning name = true) :
    stretch (rounds ++ [last]) name = stretch rounds name ++ [last] :=
  List.rtakeWhile_concat_pos _ rounds last running

theorem stretch_concat_of_stopped (stopped : ¬ last.topology.isRunning name = true) :
    stretch (rounds ++ [last]) name = [] :=
  List.rtakeWhile_concat_neg _ rounds last stopped

theorem findings_concat_of_running (running : last.topology.isRunning name = true) :
    findings policy (rounds ++ [last]) name =
      findings policy rounds name ++ (finding? policy name last).toList := by
  rw [findings, stretch_concat_of_running rounds last running, List.filterMap_append]
  cases found : finding? policy name last with
  | none => rw [List.filterMap_cons_none found, List.filterMap_nil, Option.toList_none]; rfl
  | some finding => rw [List.filterMap_cons_some found, List.filterMap_nil, Option.toList_some]; rfl

theorem findings_concat_of_stopped (stopped : ¬ last.topology.isRunning name = true) :
    findings policy (rounds ++ [last]) name = [] := by
  rw [findings, stretch_concat_of_stopped rounds last stopped, List.filterMap_nil]

theorem historyOf_of_notMem {prober : Prober} (missing : name ∉ prober.histories) :
    prober.historyOf name = .unknown name := by
  rw [historyOf, Std.ExtTreeMap.getElem?_eq_none missing, Option.getD_none]

end

/-- After any number of sweeps the history of a component is that of its present stretch. -/
theorem historyOf_run (policy : CheckPolicy) (rounds : List Round) (name : String) :
    (run policy rounds).historyOf name = .replay name (findings policy rounds name) := by
  induction rounds using List.reverseRecOn with
  | nil => rfl
  | append_singleton rounds last ih =>
    rw [run_concat]
    by_cases running : last.topology.isRunning name = true
    · rw [findings_concat_of_running policy rounds last running]
      cases made : checkFor? policy last.topology name with
      | none =>
        rw [historyOf_sweep_idle _ policy last.named _ _ made running, ih, finding?, made,
          Option.map_none, Option.toList_none, List.append_nil]
      | some check =>
        rw [historyOf_sweep_checked _ policy last.named _ _ made running, ih, finding?, made,
          Option.map_some, Option.toList_some, History.replay_concat]
    · rw [findings_concat_of_stopped policy rounds last running]
      refine historyOf_of_notMem fun kept => running ?_
      exact (mem_sweep _ policy last.named _ _).mp kept

/-! Sums -/

/-- The condition that the latest of several findings shows. -/
def latestCondition (findings : List Finding) : Condition :=
  match findings.getLast? with
  | some finding => finding.result.condition
  | none => .unknown

/-- A history that says of several findings what there is to say. -/
structure History.SumsUp (history : History) (findings : List Finding) : Prop where
  checks : history.checks = findings.length
  successes : history.successes = findings.length - findings.countP (·.failed)
  failuresInARow : history.failuresInARow = (findings.rtakeWhile (·.failed)).length
  successRate : history.successRate =
    if findings.length = 0 then .zero false
    else percentage (findings.length - findings.countP (·.failed)) findings.length
  condition : history.condition = latestCondition findings

theorem History.unknown_sumsUp (name : String) : (History.unknown name).SumsUp [] where
  checks := rfl
  successes := rfl
  failuresInARow := rfl
  successRate := rfl
  condition := rfl

/-- One more finding is summed up with those before. -/
theorem History.SumsUp.record {history : History} {findings : List Finding}
    (sums : history.SumsUp findings) (finding : Finding) :
    (history.record finding.check finding.result finding.now).SumsUp (findings ++ [finding]) := by
  have checks : history.checks + 1 = (findings ++ [finding]).length := by
    rw [List.length_append, List.length_singleton, sums.checks]
  have successes : (history.record finding.check finding.result finding.now).successes =
      (findings ++ [finding]).length - (findings ++ [finding]).countP (·.failed) := by
    have bound : findings.countP (·.failed) ≤ findings.length := List.countP_le_length
    change (if finding.failed then history.successes else history.successes + 1) = _
    rw [List.length_append, List.length_singleton, List.countP_append, List.countP_singleton,
      sums.successes]
    split <;> omega
  refine ⟨checks, successes, ?_, ?_, ?_⟩
  · change (if finding.failed then history.failuresInARow + 1 else 0) = _
    rw [List.rtakeWhile_concat, sums.failuresInARow]
    split
    · rw [List.length_append, List.length_singleton]
    · rfl
  · have some : (findings ++ [finding]).length ≠ 0 := by
      rw [← checks]
      exact Nat.succ_ne_zero _
    rw [if_neg some, ← successes, ← checks]
    rfl
  · rw [latestCondition, List.getLast?_concat]
    rfl

theorem History.replay_sumsUp (name : String) (findings : List Finding) :
    (History.replay name findings).SumsUp findings := by
  induction findings using List.reverseRecOn with
  | nil => exact History.unknown_sumsUp name
  | append_singleton findings finding ih =>
    rw [History.replay_concat]
    exact ih.record finding

/-- The history of a running component after a sweep is in the cache, and is that of its stretch. -/
theorem getElem?_run (policy : CheckPolicy) (rounds : List Round) (last : Round) {name : String}
    (running : last.topology.isRunning name = true) :
    (run policy (rounds ++ [last])).histories[name]? =
      some (.replay name (findings policy (rounds ++ [last]) name)) := by
  have kept : name ∈ (run policy (rounds ++ [last])).histories := by
    rw [run_concat]
    exact (mem_sweep _ policy last.named _ _).mpr running
  obtain ⟨history, found⟩ := Maps.mem_iff_exists.mp kept
  have whole := historyOf_run policy (rounds ++ [last]) name
  rw [historyOf, found, Option.getD_some] at whole
  rw [found, whole]

/-- The exact share of findings that are no failures, in percent; of no findings it is zero. -/
def exactRate (findings : List Finding) : ℚ :=
  100 * (findings.length - findings.countP (·.failed) : Nat) / findings.length

/-- The rate of a history that sums up findings is exact but for rounding. -/
theorem History.SumsUp.rate_near {history : History} {findings : List Finding}
    (sums : history.SumsUp findings) (small : findings.length < 2 ^ 64) :
    ∃ rate : ℚ, history.successRate.toRat? = some rate ∧ 0 ≤ rate ∧ rate ≤ 100 ∧
      |rate - exactRate findings| ≤ exactRate findings / 2 ^ 50 := by
  rw [sums.successRate, exactRate]
  split
  next none =>
    refine ⟨0, Double.toRat?_zero, le_rfl, by norm_num, ?_⟩
    rw [none, Nat.cast_zero, div_zero, sub_zero, abs_zero, zero_div]
  next some =>
    obtain ⟨rate, value, nonneg, most, near⟩ :=
      percentage_spec (Nat.pos_of_ne_zero some)
        (Nat.sub_le findings.length (findings.countP (·.failed))) small
    exact ⟨rate, value, nonneg, most, near.abs_sub_le (by positivity) (by decide)⟩

/-- After every sweep exactly the running components have a history, which sums up the checks made
of each since it was last seen not running: how many there were, how many of them succeeded, how
many have failed since the last success, and the share of successes. As long as 64 bits can count
the checks, that share lies between 0 and 100 and is exact but for rounding. -/
theorem histories_sum_up (policy : CheckPolicy) (rounds : List Round) (last : Round) :
    let prober := run policy (rounds ++ [last])
    prober.histories.keys = last.topology.runningNames ∧
      ∀ name ∈ last.topology.runningNames, ∃ history : History,
        prober.histories[name]? = some history ∧
          let found := findings policy (rounds ++ [last]) name
          let failures := found.countP (·.failed)
          history.checks = found.length ∧
            history.successes = found.length - failures ∧
            history.failuresInARow = (found.rtakeWhile (·.failed)).length ∧
            history.successRate =
              (if found.length = 0 then .zero false
                else percentage (found.length - failures) found.length) ∧
            (found.length < 2 ^ 64 → ∃ rate : ℚ, history.successRate.toRat? = some rate ∧
              0 ≤ rate ∧ rate ≤ 100 ∧ |rate - exactRate found| ≤ exactRate found / 2 ^ 50) := by
  intro prober
  have keys : prober.histories.keys = last.topology.runningNames := by
    change (run policy (rounds ++ [last])).histories.keys = _
    rw [run_concat]
    exact keys_sweep _ policy last.named _ _
  refine ⟨keys, fun name listed => ?_⟩
  have running := last.named.mem_runningNames.mp listed
  refine ⟨_, getElem?_run policy rounds last running, ?_⟩
  have sums := History.replay_sumsUp name (findings policy (rounds ++ [last]) name)
  exact ⟨sums.checks, sums.successes, sums.failuresInARow, sums.successRate, sums.rate_near⟩

/-! Components without a check -/

/-- Whatever a probe meets, it tells whether the component is up. -/
theorem ProbeResult.condition_ofOutcome_ne (fault : Option ProbeFault) (millis : Double) :
    (ProbeResult.ofOutcome fault millis).condition ≠ .unknown := by
  cases fault with
  | none => exact Condition.noConfusion
  | some fault => cases fault <;> exact Condition.noConfusion

/-- All probes of a sweep tell whether their component is up. -/
def Round.Decided (round : Round) : Prop :=
  ∀ check, (round.probe check).condition ≠ .unknown

theorem condition_of_mem_findings {policy : CheckPolicy} {rounds : List Round} {name : String}
    (decided : ∀ round ∈ rounds, round.Decided) {finding : Finding}
    (listed : finding ∈ findings policy rounds name) : finding.result.condition ≠ .unknown := by
  obtain ⟨round, inside, made⟩ := List.mem_filterMap.mp listed
  obtain ⟨check, -, rfl⟩ := Option.map_eq_some_iff.mp made
  exact decided round ((List.rtakeWhile_suffix _ rounds).subset inside) check

/-- A sweep does not make a running component unknown that has no check at present: it keeps the
condition that the latest check of its stretch has found, and is unknown only while there has been
none. -/
theorem idle_keeps_condition (policy : CheckPolicy) (rounds : List Round) (last : Round)
    {name : String} (running : last.topology.isRunning name = true)
    (idle : checkFor? policy last.topology name = none)
    (decided : ∀ round ∈ rounds, round.Decided) :
    ∃ history : History,
      (run policy (rounds ++ [last])).histories[name]? = some history ∧
        history.condition = latestCondition (findings policy rounds name) ∧
        (history.condition = .unknown ↔ findings policy rounds name = []) := by
  have same : findings policy (rounds ++ [last]) name = findings policy rounds name := by
    rw [findings_concat_of_running policy rounds last running, finding?, idle, Option.map_none,
      Option.toList_none, List.append_nil]
  have found := getElem?_run policy rounds last running
  rw [same] at found
  have latest := (History.replay_sumsUp name (findings policy rounds name)).condition
  refine ⟨_, found, latest, ?_⟩
  rw [latest, latestCondition]
  cases ending : (findings policy rounds name).getLast? with
  | none => exact iff_of_true rfl (List.getLast?_eq_none_iff.mp ending)
  | some finding =>
    have listed := List.mem_of_getLast? ending
    exact iff_of_false (condition_of_mem_findings decided listed) (List.ne_nil_of_mem listed)

/-- A sweep over a single database at whose port nothing answers. -/
def refusedRound (ports : List Nat) (now : Int) : Round where
  topology := .ofComponents [⟨"redis", "", "127.0.0.2", true, ports⟩]
  named := Topology.ofComponents_named _
  probe check := .ofOutcome (check.fault? (.refused "connection refused")) (.zero false)
  now := now

/-- A component that was down and then loses its only port. -/
theorem idle_keeps_condition_redis :
    let probed := refusedRound [7777] 0
    let last := refusedRound [] 15
    last.topology.isRunning "redis" = true ∧ checkFor? {} last.topology "redis" = none ∧
      ∃ history : History, (run {} ([probed] ++ [last])).histories["redis"]? = some history ∧
        history.condition = .down := by
  intro probed last
  have running : last.topology.isRunning "redis" = true := by decide +kernel
  have idle : checkFor? {} last.topology "redis" = none := by decide +kernel
  have decided : ∀ round ∈ [probed], round.Decided := by
    intro round listed check
    obtain rfl := List.mem_singleton.mp listed
    exact ProbeResult.condition_ofOutcome_ne _ _
  obtain ⟨history, found, latest, -⟩ := idle_keeps_condition {} [probed] last running idle decided
  exact ⟨running, idle, history, found, latest⟩

/-- Such a component is not reported unknown. -/
theorem idle_component_down :
    ¬ ∀ (policy : CheckPolicy) (rounds : List Round) (last : Round) (name : String),
      last.topology.isRunning name = true → checkFor? policy last.topology name = none →
        (run policy (rounds ++ [last])).histories[name]?.map (·.condition) = some .unknown := by
  intro claim
  have down : (run {} ([refusedRound [7777] 0] ++ [refusedRound [] 15])).histories["redis"]?.map
      (·.condition) = some .down := by
    decide +kernel
  have unknown := claim {} [refusedRound [7777] 0] (refusedRound [] 15) "redis"
    (by decide +kernel) (by decide +kernel)
  rw [down] at unknown
  cases unknown

end CoreWatch.Prober
