import CoreWatch.Config.Basic
import CoreWatch.Proofs.Collector.Ageing
import Mathlib.Algebra.Group.Nat.Defs

set_option autoImplicit false

/-!
Lengths of time that are computed from a configuration: how long the fleet waits for its collectors,
and the doubled interval up to which a collector is well. What is computed is exact, but a
configuration may be accepted for which it cannot be held.
-/

namespace CoreWatch

namespace Span

theorem limit_eq : limit = 2 ^ 64 * perSecond := rfl

theorem perSecond_pos : 0 < perSecond := by decide

theorem ofNanos?_seconds (seconds : Nat) :
    ofNanos? (seconds * perSecond) =
      if seconds < 2 ^ 64 then some (ofSeconds seconds) else none := by
  simp only [ofNanos?, limit_eq, Nat.mul_lt_mul_right perSecond_pos, ofSeconds]

theorem add?_ofSeconds (left right : Nat) :
    (ofSeconds left).add? (ofSeconds right) =
      if left + right < 2 ^ 64 then some (ofSeconds (left + right)) else none := by
  rw [add?, ofSeconds, ofSeconds, ← Nat.add_mul, ofNanos?_seconds]

theorem twice_ofSeconds (seconds : Nat) :
    2 * (ofSeconds seconds).nanos = 2 * seconds * perSecond :=
  (Nat.mul_assoc 2 seconds perSecond).symm

theorem twice_lt_limit_iff (seconds : Nat) :
    2 * (ofSeconds seconds).nanos < limit ↔ 2 * seconds < 2 ^ 64 := by
  rw [twice_ofSeconds, limit_eq, Nat.mul_lt_mul_right perSecond_pos]

end Span

namespace Config

open CoreWatch.Span (perSecond)

/-- A configuration that is accepted; its lengths of time are numbers of 64 bits. -/
structure Accepted (config : Config) : Prop where
  nonzero : config.zeroPeriod? = none
  periods : ∀ period ∈ config.periods, period.2 < 2 ^ 64
  grace : config.graceSeconds < 2 ^ 64

/-- The fleet has settings, and waits exactly a second more than collectors take to drain. -/
def GraceFits (config : Config) : Prop :=
  ∃ settings, config.fleetSettings? = some settings ∧
    settings.stopGrace = .ofSeconds (config.graceSeconds + 1) ∧
      ∀ spec now, (Collector.start spec config.collectorSettings now).settings.shutdownGrace.nanos <
        settings.stopGrace.nanos

/-- A collector has a health at all times, which compares with exactly twice the interval. -/
def IntervalFits (config : Config) : Prop :=
  ∀ (status : Collector.FetchStatus) (startedAt now : Moment),
    status.health? startedAt now config.collectorSettings =
      some (Collector.healthAt (config.staleSeconds * perSecond)
        (2 * config.fetchSeconds * perSecond) (status.age startedAt now).nanos status.works)

theorem stopGrace?_eq (config : Config) :
    config.stopGrace? =
      if config.graceSeconds + 1 < 2 ^ 64 then some (.ofSeconds (config.graceSeconds + 1))
      else none :=
  Span.add?_ofSeconds config.graceSeconds 1

theorem fleetSettings?_eq_none_iff (config : Config) :
    config.fleetSettings? = none ↔ 2 ^ 64 ≤ config.graceSeconds + 1 := by
  rw [fleetSettings?, Option.map_eq_none_iff, stopGrace?_eq, ite_eq_right_iff, ← Nat.not_lt]
  simp only [reduceCtorEq, imp_false]

theorem graceFits_iff (config : Config) :
    config.GraceFits ↔ config.graceSeconds + 1 < 2 ^ 64 := by
  constructor
  · rintro ⟨settings, found, -⟩
    by_contra long
    rw [(fleetSettings?_eq_none_iff config).mpr (Nat.not_lt.mp long)] at found
    cases found
  · intro held
    rw [GraceFits, fleetSettings?, stopGrace?_eq, if_pos held]
    refine ⟨_, rfl, rfl, fun spec now => ?_⟩
    change config.graceSeconds * perSecond < (config.graceSeconds + 1) * perSecond
    exact Nat.mul_lt_mul_of_pos_right (Nat.lt_succ_self _) Span.perSecond_pos

/-- With an interval too long to be doubled, there is no health where the doubled one decides. -/
theorem health?_eq_none_iff {config : Config} (long : 2 ^ 64 ≤ 2 * config.fetchSeconds)
    (status : Collector.FetchStatus) (startedAt now : Moment) :
    status.health? startedAt now config.collectorSettings = none ↔
      status.works = true ∧
        (status.age startedAt now).nanos ≤ config.staleSeconds * perSecond := by
  refine status.health?_eq_none_iff startedAt now (Nat.not_lt.mp ?_)
  rw [collectorSettings, Span.twice_lt_limit_iff]
  exact Nat.not_lt.mpr long

theorem intervalFits_iff (config : Config) :
    config.IntervalFits ↔ 2 * config.fetchSeconds < 2 ^ 64 := by
  constructor
  · intro fits
    by_contra long
    -- right after a success the doubled interval decides
    have answer := fits { lastSuccess := some ⟨0⟩ } ⟨0⟩ ⟨0⟩
    rw [(health?_eq_none_iff (Nat.not_lt.mp long) _ _ _).mpr ⟨rfl, Nat.zero_le _⟩] at answer
    cases answer
  · intro held status startedAt now
    rw [status.health?_eq _ _ ((Span.twice_lt_limit_iff _).mpr held), ← Span.twice_ofSeconds]
    rfl

/--
In an accepted configuration what is computed is exact, or it cannot be held at all. The fleet waits
a second more than its collectors take, unless their grace is the longest of all; then it has no
settings. Collectors are compared with twice their interval, unless this takes more than 64 bits;
then a collector has no health just while its last attempt was a success that is not yet stale.
-/
theorem spans_exact (config : Config) (accepted : config.Accepted) :
    (config.graceSeconds ≠ 2 ^ 64 - 1 → config.GraceFits) ∧
    (config.graceSeconds = 2 ^ 64 - 1 → config.fleetSettings? = none) ∧
    (config.fetchSeconds < 2 ^ 63 → config.IntervalFits) ∧
    (2 ^ 63 ≤ config.fetchSeconds → ∀ (status : Collector.FetchStatus) (startedAt now : Moment),
      status.health? startedAt now config.collectorSettings = none ↔
        status.works = true ∧
          (status.age startedAt now).nanos ≤ config.staleSeconds * perSecond) := by
  have grace := accepted.grace
  rw [graceFits_iff, fleetSettings?_eq_none_iff, intervalFits_iff]
  refine ⟨fun other => by omega, fun longest => by omega, fun short => by omega, fun long => ?_⟩
  exact health?_eq_none_iff (by omega)

/-- The longest lengths of time that still fit. -/
def longestSpans : Config :=
  { instanceName := "nfmon", graceSeconds := 2 ^ 64 - 2, fetchSeconds := 2 ^ 63 - 1 }

theorem spans_exact_longest :
    longestSpans.Accepted ∧ longestSpans.graceSeconds ≠ 2 ^ 64 - 1 ∧
      longestSpans.fetchSeconds < 2 ^ 63 ∧ longestSpans.GraceFits ∧ longestSpans.IntervalFits := by
  have accepted : longestSpans.Accepted := ⟨by decide, by decide, by decide⟩
  have grace : longestSpans.graceSeconds ≠ 2 ^ 64 - 1 := by decide
  have interval : longestSpans.fetchSeconds < 2 ^ 63 := by decide
  obtain ⟨graceFits, -, intervalFits, -⟩ := spans_exact longestSpans accepted
  exact ⟨accepted, grace, interval, graceFits grace, intervalFits interval⟩

/-- One second more of either is accepted as well, and does not fit. -/
theorem spans_overlong :
    (¬ ∀ config : Config, config.Accepted → config.GraceFits) ∧
      ¬ ∀ config : Config, config.Accepted → config.IntervalFits := by
  constructor
  · intro always
    have fits := always { instanceName := "nfmon", graceSeconds := 2 ^ 64 - 1 }
      ⟨by decide, by decide, by decide⟩
    rw [graceFits_iff] at fits
    exact absurd fits (by decide)
  · intro always
    have fits := always { instanceName := "nfmon", fetchSeconds := 2 ^ 63 }
      ⟨by decide, by decide, by decide⟩
    rw [intervalFits_iff] at fits
    exact absurd fits (by decide)

end Config
end CoreWatch
