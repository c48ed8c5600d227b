import CoreWatch.Collector.Basic
import Mathlib.Data.List.Basic
import Mathlib.Data.List.Induction

set_option autoImplicit false

/-!
The health of a collector over time. It hangs on the whole history of attempts only by the moment of
the last success and by how the last attempt went, so that it gets worse with time until the next
success, and no failure makes it better.
-/

namespace CoreWatch

namespace Collector

/-! Ages -/

/--
The health at an age of the last success: beyond the age `stale` nothing is trusted, and up to the
age `fresh` a collector that works is well.
-/
def healthAt (stale fresh age : Nat) (works : Bool) : Health :=
  if stale < age then .unhealthy
  else if works && decide (age ≤ fresh) then .healthy
  else .degraded

section
variable {stale fresh age older : Nat} {works worked : Bool}

theorem healthAt_eq_unhealthy_iff : healthAt stale fresh age works = .unhealthy ↔ stale < age := by
  rw [healthAt]
  split
  next old => simp only [old]
  next young => split <;> simp only [young, reduceCtorEq]

theorem healthAt_eq_healthy_iff :
    healthAt stale fresh age works = .healthy ↔ works = true ∧ age ≤ min stale fresh := by
  rw [healthAt, Nat.le_min]
  split
  next old =>
    simp only [reduceCtorEq, false_iff]
    omega
  next young =>
    have trusted : age ≤ stale := Nat.le_of_not_lt young
    cases works <;> by_cases recent : age ≤ fresh <;> simp [trusted, recent]

/-- Health gets no better with age, nor when something that worked does not work any more. -/
theorem severity_healthAt_mono (le : age ≤ older) (kept : worked = true → works = true) :
    (healthAt stale fresh age works).severity ≤ (healthAt stale fresh older worked).severity := by
  cases after : healthAt stale fresh older worked with
  | unhealthy => cases healthAt stale fresh age works <;> decide
  | healthy =>
    obtain ⟨working, recent⟩ := healthAt_eq_healthy_iff.mp after
    have before : healthAt stale fresh age works = .healthy :=
      healthAt_eq_healthy_iff.mpr ⟨kept working, Nat.le_trans le recent⟩
    exact Nat.le_of_eq (congrArg Health.severity before)
  | degraded =>
    have trusted : ¬ stale < older := by
      intro old
      rw [healthAt_eq_unhealthy_iff.mpr old] at after
      cases after
    have before : healthAt stale fresh age works ≠ .unhealthy := by
      rw [Ne, healthAt_eq_unhealthy_iff]
      omega
    cases rated : healthAt stale fresh age works with
    | unhealthy => exact absurd rated before
    | healthy => decide
    | degraded => decide

end

namespace FetchStatus

/-- Whether the last attempt succeeded. -/
def works (status : FetchStatus) : Bool :=
  status.lastSuccess.isSome && status.lastError.isNone

/-- As long as twice the interval can be held, there is an answer at every age. -/
theorem health?_eq (status : FetchStatus) (startedAt now : Moment) {settings : Settings}
    (held : 2 * settings.fetchInterval.nanos < Span.limit) :
    status.health? startedAt now settings =
      some (healthAt settings.staleAfter.nanos (2 * settings.fetchInterval.nanos)
        (status.age startedAt now).nanos status.works) := by
  have twice : settings.fetchInterval.twice? = some ⟨2 * settings.fetchInterval.nanos⟩ := by
    rw [Span.twice?, Span.ofNanos?, if_pos held]
  simp only [health?, healthAt, twice, Option.map_some]
  split
  · rfl
  · change (if status.works = true then _ else _) = _
    split
    next works => simp only [works, Bool.true_and, decide_eq_true_eq]
    next idle =>
      rw [Bool.not_eq_true] at idle
      simp only [idle, Bool.false_and, Bool.false_eq_true, ↓reduceIte]

/-- Otherwise there is none exactly where the doubled interval decides. -/
theorem health?_eq_none_iff (status : FetchStatus) (startedAt now : Moment) {settings : Settings}
    (long : Span.limit ≤ 2 * settings.fetchInterval.nanos) :
    status.health? startedAt now settings = none ↔
      status.works = true ∧ (status.age startedAt now).nanos ≤ settings.staleAfter.nanos := by
  have twice : settings.fetchInterval.twice? = none := by
    rw [Span.twice?, Span.ofNanos?, if_neg (Nat.not_lt.mpr long)]
  simp only [health?, twice, Option.map_none, ← Nat.not_lt]
  split
  next old => simp only [old, reduceCtorEq, not_true_eq_false, and_false]
  next young =>
    change (if status.works = true then _ else _) = _ ↔ _
    split
    next works => simp only [works, young, not_false_eq_true, and_self]
    next idle => simp only [idle, reduceCtorEq, false_and]

end FetchStatus

/-! Histories -/

/-- What is recorded of an attempt when it is over. -/
inductive Mark
  | success (now : Moment) (metricCount seriesCount : Nat)
  | failure (now : Moment) (error : String)

namespace Mark

def now : Mark → Moment
  | success now _ _ => now
  | failure now _ => now

def succeeded : Mark → Bool
  | success .. => true
  | failure .. => false

def record (status : FetchStatus) : Mark → FetchStatus
  | success now metricCount seriesCount => status.success now metricCount seriesCount
  | failure now error => status.failure now error

end Mark

/-- The status of a collector that was started and has recorded a history since. -/
def statusAfter (history : List Mark) : FetchStatus :=
  history.foldl Mark.record {}

theorem statusAfter_concat (history : List Mark) (mark : Mark) :
    statusAfter (history ++ [mark]) = mark.record (statusAfter history) := by
  rw [statusAfter, statusAfter, List.foldl_concat]

def lastSuccess? (history : List Mark) : Option Moment :=
  (history.filter (·.succeeded)).getLast?.map (·.now)

/-- The nanoseconds since the last success, or since the start; none when that is still to come. -/
def sinceSuccess (startedAt : Moment) (history : List Mark) (now : Moment) : Nat :=
  (now.nanos - ((lastSuccess? history).getD startedAt).nanos).toNat

/-- The status remembers the last success and how the last attempt went. -/
theorem statusAfter_remembers (history : List Mark) :
    (statusAfter history).lastSuccess = lastSuccess? history ∧
      (statusAfter history).works = history.getLast?.any (·.succeeded) := by
  induction history using List.reverseRecOn with
  | nil => exact ⟨rfl, rfl⟩
  | append_singleton history mark ih =>
    rw [statusAfter_concat, lastSuccess?, List.filter_append, List.getLast?_concat]
    cases mark with
    | success now metricCount seriesCount =>
      exact ⟨by simp [Mark.record, FetchStatus.success, Mark.succeeded, Mark.now], rfl⟩
    | failure now error =>
      refine ⟨?_, ?_⟩
      · simp only [Mark.record, FetchStatus.failure, ih.1, lastSuccess?, Mark.succeeded,
          List.filter_cons, List.filter_nil, Bool.false_eq_true, ↓reduceIte, List.append_nil]
      · simp only [FetchStatus.works, Mark.record, FetchStatus.failure, Option.isNone_some,
          Bool.and_false, Option.any_some, Mark.succeeded]

/-- The health that a history shows. -/
def healthOf (settings : Settings) (startedAt : Moment) (history : List Mark) (now : Moment) :
    Health :=
  healthAt settings.staleAfter.nanos (2 * settings.fetchInterval.nanos)
    (sinceSuccess startedAt history now) (history.getLast?.any (·.succeeded))

theorem health?_statusAfter {settings : Settings}
    (held : 2 * settings.fetchInterval.nanos < Span.limit) (startedAt : Moment)
    (history : List Mark) (now : Moment) :
    (statusAfter history).health? startedAt now settings =
      some (healthOf settings startedAt history now) := by
  obtain ⟨last, works⟩ := statusAfter_remembers history
  rw [FetchStatus.health?_eq _ _ _ held, works, FetchStatus.age, last]
  rfl

theorem sinceSuccess_mono (startedAt : Moment) (history : List Mark) {now later : Moment}
    (le : now.nanos ≤ later.nanos) :
    sinceSuccess startedAt history now ≤ sinceSuccess startedAt history later := by
  unfold sinceSuccess
  omega

theorem sinceSuccess_failure (startedAt : Moment) (history : List Mark) (failed : Moment)
    (error : String) (now : Moment) :
    sinceSuccess startedAt (history ++ [.failure failed error]) now =
      sinceSuccess startedAt history now := by
  simp only [sinceSuccess, lastSuccess?, List.filter_append, Mark.succeeded, List.filter_cons,
    List.filter_nil, Bool.false_eq_true, ↓reduceIte, List.append_nil]

theorem sinceSuccess_success (startedAt : Moment) (history : List Mark) (now : Moment)
    (metricCount seriesCount : Nat) :
    sinceSuccess startedAt (history ++ [.success now metricCount seriesCount]) now = 0 := by
  simp [sinceSuccess, lastSuccess?, Mark.succeeded, Mark.now]

section
variable (settings : Settings) (startedAt : Moment) (history : List Mark) (now : Moment)

/-- The last success, or else the start, is too long ago. -/
def IsStale : Prop :=
  settings.staleAfter.nanos < sinceSuccess startedAt history now

/-- The last attempt was a success, and it is recent enough by both limits. -/
def IsFresh : Prop :=
  (∃ mark ∈ history, mark.succeeded = true) ∧
    (∀ last, history.getLast? = some last → last.succeeded = true) ∧
      sinceSuccess startedAt history now ≤
        min settings.staleAfter.nanos (2 * settings.fetchInterval.nanos)

/-- The law by which a history of attempts is rated. -/
structure Rated (health : Health) : Prop where
  unhealthy : health = .unhealthy ↔ IsStale settings startedAt history now
  healthy : health = .healthy ↔ IsFresh settings startedAt history now
  degraded : health = .degraded ↔
    ¬ IsStale settings startedAt history now ∧ ¬ IsFresh settings startedAt history now

end

/-- Two health answers, of which the second is no better than the first. -/
def NoBetter (before after : Option Health) : Prop :=
  ∃ first second, before = some first ∧ after = some second ∧ first.severity ≤ second.severity

theorem any_getLast?_iff (history : List Mark) :
    history.getLast?.any (·.succeeded) = true ↔
      (∃ mark ∈ history, mark.succeeded = true) ∧
        ∀ last, history.getLast? = some last → last.succeeded = true := by
  cases last : history.getLast? with
  | none =>
    rw [List.getLast?_eq_none_iff] at last
    simp [last]
  | some mark =>
    have listed : mark ∈ history := List.mem_of_getLast? last
    simp only [Option.any_some, Option.some.injEq, forall_eq']
    exact ⟨fun succeeded => ⟨⟨mark, listed, succeeded⟩, succeeded⟩, fun both => both.2⟩

theorem healthOf_rated (settings : Settings) (startedAt : Moment) (history : List Mark)
    (now : Moment) :
    Rated settings startedAt history now (healthOf settings startedAt history now) := by
  have stale : healthOf settings startedAt history now = .unhealthy ↔
      IsStale settings startedAt history now := healthAt_eq_unhealthy_iff
  have fresh : healthOf settings startedAt history now = .healthy ↔
      IsFresh settings startedAt history now := by
    rw [healthOf, healthAt_eq_healthy_iff, any_getLast?_iff, and_assoc]
    rfl
  refine ⟨stale, fresh, ?_⟩
  rw [← stale, ← fresh]
  cases healthOf settings startedAt history now <;> decide

/--
Whatever successes and failures were recorded, a collector is unhealthy exactly when its last
success, or else its start, is too long ago, and healthy exactly when the last attempt was a success
that is recent enough by both limits. So health gets no better by waiting nor by a failure, and is
perfect right after a success.
-/
theorem health_over_time (settings : Settings) (startedAt : Moment) (history : List Mark)
    (held : 2 * settings.fetchInterval.nanos < Span.limit) :
    let health? (history : List Mark) (now : Moment) :=
      (statusAfter history).health? startedAt now settings
    (∀ now, ∃ health, health? history now = some health ∧
      Rated settings startedAt history now health) ∧
    (∀ now later, now.nanos ≤ later.nanos →
      NoBetter (health? history now) (health? history later)) ∧
    (∀ failed error now later, now.nanos ≤ later.nanos →
      NoBetter (health? history now) (health? (history ++ [.failure failed error]) later)) ∧
    ∀ now metricCount seriesCount,
      health? (history ++ [.success now metricCount seriesCount]) now = some .healthy := by
  intro health?
  have answer := health?_statusAfter held startedAt
  refine ⟨fun now => ?_, fun now later le => ?_, fun failed error now later le => ?_,
    fun now metricCount seriesCount => ?_⟩
  · exact ⟨_, answer history now, healthOf_rated settings startedAt history now⟩
  · refine ⟨_, _, answer history now, answer history later, ?_⟩
    exact severity_healthAt_mono (sinceSuccess_mono startedAt history le) id
  · refine ⟨_, _, answer history now, answer _ later, ?_⟩
    rw [healthOf, healthOf, sinceSuccess_failure, List.getLast?_concat]
    -- a collector whose last attempt failed does not work, so the earlier one need not either
    exact severity_healthAt_mono (sinceSuccess_mono startedAt history le) fun works => nomatch works
  · refine (answer _ now).trans (congrArg some (healthAt_eq_healthy_iff.mpr ⟨?_, ?_⟩))
    · rw [List.getLast?_concat]
      rfl
    · rw [sinceSuccess_success]
      exact Nat.zero_le _

/-- A collector that fails after its only success, is left alone for long, and then recovers. -/
theorem health_over_time_recovered :
    let history : List Mark := [.success ⟨2000000000⟩ 3 7, .failure ⟨7000000000⟩ "no answer"]
    let health? (history : List Mark) (now : Moment) :=
      (statusAfter history).health? ⟨0⟩ now {}
    2 * ({} : Settings).fetchInterval.nanos < Span.limit ∧
      health? history ⟨32000000000⟩ = some .degraded ∧
      health? history ⟨32000000001⟩ = some .unhealthy ∧
      health? (history ++ [.success ⟨40000000000⟩ 3 7]) ⟨40000000000⟩ = some .healthy := by
  intro history health?
  have held : 2 * ({} : Settings).fetchInterval.nanos < Span.limit := by decide +kernel
  obtain ⟨laws, -, -, recovered⟩ := health_over_time {} ⟨0⟩ history held
  have failed : ∀ now, ¬ IsFresh {} ⟨0⟩ history now := fun now fresh => by
    have last := fresh.2.1 _ rfl
    cases last
  obtain ⟨first, shown, rated⟩ := laws ⟨32000000000⟩
  obtain ⟨second, shown', rated'⟩ := laws ⟨32000000001⟩
  obtain rfl : first = .degraded :=
    rated.degraded.mpr ⟨Nat.not_lt.mpr (by decide +kernel), failed _⟩
  obtain rfl : second = .unhealthy := rated'.unhealthy.mpr (by unfold IsStale; decide +kernel)
  exact ⟨held, shown, shown', recovered _ _ _⟩

end Collector
end CoreWatch
