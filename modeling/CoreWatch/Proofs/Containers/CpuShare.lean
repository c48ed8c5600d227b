import CoreWatch.Containers.Usage
import CoreWatch.Proofs.Double.Magnitude
import Mathlib.Data.List.Basic
import Mathlib.Data.List.Induction
import Mathlib.Tactic.Positivity

set_option autoImplicit false

/-!
The share of processor time over several statistics documents of one container. Each document with
a section of processor time is compared with the latest one before it that had such a section, and a
share is what the counters have grown by, but for rounding. A counter that a section does not tell
counts as zero, there as in the comparison with the next document.
-/

namespace CoreWatch.Container

/-- A statistics document of a container, and when it is read. -/
structure Reading where
  id : String
  name : String
  stats : Json
  now : Int

/-- What a document tells when it is compared with earlier counters. -/
def Reading.usage (reading : Reading) (previous : Option CpuCounters) : Usage :=
  (Usage.ofStats reading.stats reading.id reading.name previous reading.now).1

/-- The counters with which the next document is compared. -/
def Reading.counters (reading : Reading) (previous : Option CpuCounters) : Option CpuCounters :=
  (Usage.ofStats reading.stats reading.id reading.name previous reading.now).2

/-- The counters that documents leave behind, read one after another. -/
def baseline (readings : List Reading) : Option CpuCounters :=
  readings.foldl (fun previous reading => reading.counters previous) none

theorem baseline_concat (readings : List Reading) (reading : Reading) :
    baseline (readings ++ [reading]) = reading.counters (baseline readings) := by
  rw [baseline, baseline, List.foldl_concat]

/-! What a document tells of processor time -/

/-- The time that a container has used, if it is told and can be read. -/
def usedTime? (stats : Json) : Option Nat :=
  (((stats.get? "cpu_stats").bind (·.get? "cpu_usage")).bind (·.get? "total_usage")).bind
    Usage.readCount?

/-- The time that has passed on its host, if it is told and can be read. -/
def passedTime? (stats : Json) : Option Nat :=
  ((stats.get? "cpu_stats").bind (·.get? "system_cpu_usage")).bind Usage.readCount?

/-- The counters of a document that tells both of them. -/
def toldCounters? (stats : Json) : Option CpuCounters :=
  match usedTime? stats, passedTime? stats with
  | some total, some system => some ⟨total, system⟩
  | _, _ => none

/-- The counters of a document with a section of processor time; what it does not tell is zero. -/
def filledCounters? (stats : Json) : Option CpuCounters :=
  match stats.get? "cpu_stats" with
  | some (.obj _) => some ⟨(usedTime? stats).getD 0, (passedTime? stats).getD 0⟩
  | _ => none

/-- How many processors a document says were in use. -/
def processorsOf (stats : Json) : Nat :=
  Usage.processors ((stats.get? "cpu_stats").getD .null)

/-- A document that tells both counters if it has a section of processor time. -/
def Reading.Complete (reading : Reading) : Prop :=
  (filledCounters? reading.stats).isSome = true → (toldCounters? reading.stats).isSome = true

theorem wholePart_le (bound : Nat) (x : Double) : x.wholePart bound ≤ bound := by
  cases x with
  | nan => exact Nat.zero_le bound
  | infinite negative =>
    cases negative with
    | false => exact Nat.le_refl bound
    | true => exact Nat.zero_le bound
  | finite negative rank =>
    cases negative with
    | false => exact Nat.min_le_right _ bound
    | true => exact Nat.zero_le bound

theorem readCount?_lt {json : Json} {n : Nat} (read : Usage.readCount? json = some n) :
    n < 2 ^ 64 := by
  refine Nat.lt_of_le_of_lt (m := Usage.maxCount) ?_ (by decide)
  unfold Usage.readCount? at read
  split at read
  next count => exact Option.some.inj read ▸ Nat.min_le_right _ _
  next x =>
    split at read
    · exact Option.some.inj read ▸ wholePart_le _ x
    · cases read
  next => cases read

/-- Counters are numbers of 64 bits. -/
theorem filledCounters?_lt {stats : Json} {counters : CpuCounters}
    (filled : filledCounters? stats = some counters) :
    counters.total < 2 ^ 64 ∧ counters.system < 2 ^ 64 := by
  have bounded {count? : Option Json} : (count?.bind Usage.readCount?).getD 0 < 2 ^ 64 := by
    cases read : count?.bind Usage.readCount? with
    | none => decide
    | some n =>
      obtain ⟨json, -, told⟩ := Option.bind_eq_some_iff.mp read
      exact readCount?_lt told
  unfold filledCounters? at filled
  split at filled
  · cases filled
    exact ⟨bounded, bounded⟩
  · cases filled

/-- What is told has a section in which it is told. -/
theorem filledCounters?_of_told {stats : Json} {counters : CpuCounters}
    (told : toldCounters? stats = some counters) : filledCounters? stats = some counters := by
  unfold toldCounters? at told
  split at told
  next total system used passed =>
    cases told
    have section? : ∃ members, stats.get? "cpu_stats" = some (.obj members) := by
      obtain ⟨count, found, -⟩ := Option.bind_eq_some_iff.mp passed
      obtain ⟨cpu, there, member⟩ := Option.bind_eq_some_iff.mp found
      cases cpu with
      | obj members => exact ⟨members, there⟩
      | _ => cases member
    obtain ⟨members, there⟩ := section?
    rw [filledCounters?, there, used, passed]
    rfl
  next => cases told

theorem Reading.Complete.filled_eq_told {reading : Reading} (complete : reading.Complete) :
    filledCounters? reading.stats = toldCounters? reading.stats := by
  cases told : toldCounters? reading.stats with
  | some counters => exact filledCounters?_of_told told
  | none =>
    cases filled : filledCounters? reading.stats with
    | none => rfl
    | some counters =>
      have both := complete (filled ▸ rfl)
      rw [told] at both
      cases both

/-! One document -/

/-- A document without a section of processor time shows no share and leaves all as it was. -/
theorem read_unfilled {reading : Reading} (previous : Option CpuCounters)
    (unfilled : filledCounters? reading.stats = none) :
    (reading.usage previous).cpuPercent = .zero false ∧
      reading.counters previous = previous ∧
        ∃ text, "cpu: " ++ text ∈ (reading.usage previous).warnings := by
  have fault : ∃ fault, Usage.readCpu previous reading.stats = .error fault := by
    unfold filledCounters? at unfilled
    rw [Usage.readCpu, Usage.section?]
    split at unfilled
    next => cases unfilled
    next other =>
      split
      · exact ⟨_, rfl⟩
      · exact ⟨_, rfl⟩
      next members there => exact (other members there).elim
      · exact ⟨_, rfl⟩
  obtain ⟨fault, failed⟩ := fault
  refine ⟨?_, ?_, fault.message, ?_⟩
  · simp only [Reading.usage, Usage.ofStats, failed]
    rfl
  · simp only [Reading.counters, Usage.ofStats, failed]
    exact Option.none_or
  · simp only [Reading.usage, Usage.ofStats, failed]
    refine List.mem_filterMap.mpr ⟨some ("cpu: " ++ fault.message), List.mem_cons_self, rfl⟩

/-- Any other document leaves its own counters, and shows what they have grown by. -/
theorem read_filled {reading : Reading} (previous : Option CpuCounters) {current : CpuCounters}
    (filled : filledCounters? reading.stats = some current) :
    (reading.usage previous).cpuPercent =
        Usage.cpuShare previous current (processorsOf reading.stats) ∧
      reading.counters previous = some current := by
  have read : Usage.readCpu previous reading.stats =
      .ok (Usage.cpuShare previous current (processorsOf reading.stats), current) := by
    unfold filledCounters? at filled
    split at filled
    next members there =>
      cases filled
      rw [Usage.readCpu, Usage.section?, processorsOf, usedTime?, passedTime?, there]
      cases usage : (Json.obj members).get? "cpu_usage" <;>
        simp [usage, Usage.countOf, bind, Except.bind, pure, Except.pure]
    next => cases filled
  constructor
  · simp only [Reading.usage, Usage.ofStats, read]
    rfl
  · simp only [Reading.counters, Usage.ofStats, read]
    rfl

/-! Shares -/

/-- The exact growth of the first counter in that of the second, in percent of one processor. -/
def exactShare (before current : CpuCounters) (processors : Nat) : ℚ :=
  (current.total - before.total : Nat) / (current.system - before.system : Nat) * processors * 100

/--
A share that is exact but for rounding, as long as 64 bits can count the processors; it is zero
unless there are earlier counters and both have grown since.
-/
def ShowsGrowth (previous : Option CpuCounters) (current : CpuCounters) (processors : Nat)
    (share : Double) : Prop :=
  match previous with
  | some before =>
    if before.total < current.total ∧ before.system < current.system then
      processors < 2 ^ 64 → ∃ value : ℚ, share.toRat? = some value ∧
        |value - exactShare before current processors| ≤
          exactShare before current processors / 2 ^ 50
    else share = .zero false
  | none => share = .zero false

theorem processors_pos (cpu : Json) : 0 < Usage.processors cpu := by
  simp only [Usage.processors]
  split
  next told => exact told
  next => exact Nat.lt_of_lt_of_le Nat.one_pos (Nat.le_max_right _ 1)

theorem cpuShare_showsGrowth (previous : Option CpuCounters) {current : CpuCounters}
    (total : current.total < 2 ^ 64) (system : current.system < 2 ^ 64) {processors : Nat}
    (positive : 0 < processors) :
    ShowsGrowth previous current processors (Usage.cpuShare previous current processors) := by
  cases previous with
  | none => rfl
  | some before =>
    simp only [ShowsGrowth, Usage.cpuShare, Bool.and_eq_true, decide_eq_true_eq]
    split
    next grown =>
      intro few
      have used := Double.ofNat_near (Nat.sub_pos_of_lt grown.1)
        (Nat.lt_of_le_of_lt (Nat.sub_le _ before.total) total)
      have passed := Double.ofNat_near (Nat.sub_pos_of_lt grown.2)
        (Nat.lt_of_le_of_lt (Nat.sub_le _ before.system) system)
      have hundred : Double.Near 1 64 (.ofNat 100) 100 := by
        exact_mod_cast Double.ofNat_near (n := 100) (by decide) (by decide)
      have share := ((used.div passed (by decide)).mul (Double.ofNat_near positive few)
        (by decide)).mul hundred (by decide)
      obtain ⟨value, worth, within⟩ := share.toRat
      have nonneg : 0 ≤ exactShare before current processors := by
        rw [exactShare]
        positivity
      exact ⟨value, worth, within.abs_sub_le nonneg (by decide)⟩
    next => rfl

/-! Many documents -/

/--
How the documents of a container are compared when `counters?` gives the counters of each: every one
that has counters is compared with the latest one before that had some, and one that has none shows
no share, is not compared with later on, and leaves a warning.
-/
structure Compared (counters? : Json → Option CpuCounters) (earlier : List Reading)
    (reading : Reading) : Prop where
  latest : baseline earlier = (earlier.filterMap fun before => counters? before.stats).getLast?
  without : counters? reading.stats = none →
    (reading.usage (baseline earlier)).cpuPercent = .zero false ∧
      reading.counters (baseline earlier) = baseline earlier ∧
        ∃ text, "cpu: " ++ text ∈ (reading.usage (baseline earlier)).warnings
  having : ∀ current, counters? reading.stats = some current →
    reading.counters (baseline earlier) = some current ∧
      ShowsGrowth (baseline earlier) current (processorsOf reading.stats)
        (reading.usage (baseline earlier)).cpuPercent

theorem baseline_eq (readings : List Reading) :
    baseline readings =
      (readings.filterMap fun reading => filledCounters? reading.stats).getLast? := by
  induction readings using List.reverseRecOn with
  | nil => rfl
  | append_singleton readings reading ih =>
    rw [baseline_concat, List.filterMap_append]
    cases filled : filledCounters? reading.stats with
    | none =>
      simp only [List.filterMap_cons, filled, List.filterMap_nil, List.append_nil, ← ih]
      exact (read_unfilled _ filled).2.1
    | some current =>
      simp only [List.filterMap_cons, filled, List.filterMap_nil, List.getLast?_concat]
      exact (read_filled _ filled).2

/-- Where every document is complete, all are compared by what they tell. -/
theorem Compared.of_complete {earlier : List Reading} {reading : Reading}
    (compared : Compared filledCounters? earlier reading)
    (complete : ∀ one ∈ earlier ++ [reading], one.Complete) :
    Compared toldCounters? earlier reading := by
  have last : filledCounters? reading.stats = toldCounters? reading.stats :=
    (complete reading (List.mem_append_right _ List.mem_cons_self)).filled_eq_told
  have before : (earlier.filterMap fun one => filledCounters? one.stats) =
      earlier.filterMap fun one => toldCounters? one.stats :=
    List.filterMap_congr fun one listed =>
      (complete one (List.mem_append_left _ listed)).filled_eq_told
  exact ⟨before ▸ compared.latest, last ▸ compared.without, last ▸ compared.having⟩

/--
Every document with a section of processor time is compared with the latest one before it that had
such a section, a counter that a section does not tell counting as zero; a document without a
section shows no share, changes nothing for later ones and leaves a warning. So as long as sections
tell both counters, a share is what the counters have grown by since the latest document that told
them, and nothing else is ever compared with.
-/
theorem shares_compare_sections (earlier : List Reading) (reading : Reading) :
    Compared filledCounters? earlier reading ∧
      ((∀ one ∈ earlier ++ [reading], one.Complete) →
        Compared toldCounters? earlier reading) := by
  have compared : Compared filledCounters? earlier reading := by
    refine ⟨baseline_eq earlier, read_unfilled (baseline earlier), fun current filled => ?_⟩
    obtain ⟨share, left⟩ := read_filled (baseline earlier) filled
    obtain ⟨total, system⟩ := filledCounters?_lt filled
    refine ⟨left, share ▸ ?_⟩
    exact cpuShare_showsGrowth _ total system (processors_pos _)
  exact ⟨compared, compared.of_complete⟩

/-- A container of whose processor time nothing is told, and then a lot. -/
def silentReading : Reading :=
  ⟨"c0ffee", "amf", .obj [("cpu_stats", .obj [])], 0⟩

def busyReading : Reading :=
  ⟨"c0ffee", "amf", .obj [("cpu_stats", .obj [("cpu_usage", .obj [("total_usage", .nat 500)]),
    ("system_cpu_usage", .nat 1000)])], 10⟩

/-- A share that is made from counters that no document has told. -/
theorem shares_untold :
    ¬ ∀ (earlier : List Reading) (reading : Reading), Compared toldCounters? earlier reading := by
  intro claim
  have untold : baseline [silentReading] = none := (claim [silentReading] busyReading).latest
  have share := ((claim [silentReading] busyReading).having ⟨500, 1000⟩ (by decide +kernel)).2
  have half : (busyReading.usage (baseline [silentReading])).cpuPercent = .ofNat 50 := by
    decide +kernel
  rw [half, untold] at share
  have zero : Double.ofNat 50 = .zero false := share
  revert zero
  decide +kernel

end CoreWatch.Container
