import CoreWatch.Proofs.Maps
import CoreWatch.SelfHealth
import Mathlib.Data.List.Induction

set_option autoImplicit false

/-!
The health of the monitor, told from its parts. Whoever reports, and in whatever order, a part
stands as it reported last, the whole is as bad as the worst of its parts, and it is ready once that
was said last and while no part is unhealthy.
-/

namespace CoreWatch

namespace Health

/-! The worst of some -/

/-- One of them, than which none is worse; healthy when there are none. -/
structure IsWorst (given : Health → Prop) (health : Health) : Prop where
  bound : ∀ other, given other → other.severity ≤ health.severity
  attained : given health ∨ (∀ other, ¬ given other) ∧ health = .healthy

section

variable {given known : Health → Prop} {left right : Health}

theorem severity_le_unhealthy (health : Health) : health.severity ≤ unhealthy.severity := by
  cases health <;> decide

theorem eq_of_severity (same : left.severity = right.severity) : left = right := by
  cases left <;> cases right <;> first | rfl | cases same

theorem IsWorst.congr (same : ∀ health, given health ↔ known health)
    (worst : IsWorst given left) : IsWorst known left := by
  obtain rfl : given = known := funext fun health => propext (same health)
  exact worst

theorem IsWorst.unique (first : IsWorst given left) (second : IsWorst given right) :
    left = right := by
  rcases first.attained with there | ⟨none, rfl⟩
  · rcases second.attained with there' | ⟨none, rfl⟩
    · exact eq_of_severity (Nat.le_antisymm (second.bound _ there) (first.bound _ there'))
    · exact absurd there (none _)
  · rcases second.attained with there' | ⟨-, rfl⟩
    · exact absurd there' (none _)
    · rfl

/-- Unhealthy is the worst of all, so it is found wherever it is given. -/
theorem IsWorst.eq_unhealthy_iff (worst : IsWorst given left) :
    left = .unhealthy ↔ given .unhealthy := by
  constructor
  · rintro rfl
    rcases worst.attained with there | ⟨-, healthy⟩
    · exact there
    · cases healthy
  · intro there
    exact eq_of_severity (Nat.le_antisymm (severity_le_unhealthy left) (worst.bound _ there))

/-- The search, begun after some that were healthy or, if one was seen, degraded. -/
theorem worstFrom_isWorst (healths : List Health) (seenDegraded : Bool) :
    IsWorst (fun health => health ∈ healths ∨ seenDegraded = true ∧ health = .degraded)
      (worstFrom seenDegraded healths) := by
  induction healths generalizing seenDegraded with
  | nil =>
    cases seenDegraded with
    | true =>
      refine ⟨fun other given => ?_, Or.inl (Or.inr ⟨rfl, rfl⟩)⟩
      rcases given with listed | ⟨-, rfl⟩
      · cases listed
      · exact Nat.le_refl _
    | false =>
      have none : ∀ other : Health, ¬ (other ∈ [] ∨ false = true ∧ other = .degraded) := by simp
      exact ⟨fun other given => absurd given (none other), Or.inr ⟨none, rfl⟩⟩
  | cons first rest ih =>
    cases first with
    | unhealthy =>
      exact ⟨fun other _ => severity_le_unhealthy other, Or.inl (Or.inl List.mem_cons_self)⟩
    | degraded =>
      -- from here on it does not matter whether there was one before
      refine (ih true).congr fun health => ?_
      rw [List.mem_cons]
      tauto
    | healthy =>
      have worst := ih seenDegraded
      refine ⟨fun other given => ?_, Or.inl ?_⟩
      · rcases given with listed | seen
        · rcases List.mem_cons.mp listed with rfl | later
          · exact Nat.zero_le _
          · exact worst.bound other (Or.inl later)
        · exact worst.bound other (Or.inr seen)
      -- when nothing else is given, this one is the healthy one that is found
      · rcases worst.attained with (later | seen) | ⟨-, healthy⟩
        · exact Or.inl (List.mem_cons_of_mem _ later)
        · exact Or.inr seen
        · exact Or.inl (List.mem_cons.mpr (Or.inl healthy))

theorem worst_isWorst (healths : List Health) : IsWorst (· ∈ healths) (worst healths) :=
  (worstFrom_isWorst healths false).congr fun health => by simp

/-- Where the search stops hangs on the order, what it finds does not. -/
theorem worst_perm {healths others : List Health} (perm : healths.Perm others) :
    worst healths = worst others :=
  (worst_isWorst healths).unique ((worst_isWorst others).congr fun _ => perm.mem_iff.symm)

end
end Health

/-- What a report says, but for the time. -/
def HealthReport.verdict (report : HealthReport) : Health × Option String :=
  (report.status, report.message)

namespace SelfHealth

/-! Calls -/

/-- The ways in which a part reports. -/
inductive Word
  | registered
  | healthy
  | degraded (message : String)
  | unhealthy (message : String)

structure Notice where
  word : Word
  now : Moment

/-- A part reports, or the monitor is said to be ready or not to be. -/
inductive Call
  | report (name : String) (notice : Notice)
  | setReady (ready : Bool)

namespace Word

def status : Word → Health
  | registered => .healthy
  | healthy => .healthy
  | degraded _ => .degraded
  | unhealthy _ => .unhealthy

def message? : Word → Option String
  | registered => none
  | healthy => none
  | degraded message => some message
  | unhealthy message => some message

end Word

def Notice.report (notice : Notice) : HealthReport :=
  ⟨notice.word.status, notice.word.message?, notice.now.seconds⟩

namespace Call

def perform (health : SelfHealth) : Call → SelfHealth
  | report name ⟨.registered, now⟩ => health.register name now
  | report name ⟨.healthy, now⟩ => health.setHealthy name now
  | report name ⟨.degraded message, now⟩ => health.setDegraded name message now
  | report name ⟨.unhealthy message, now⟩ => health.setUnhealthy name message now
  | setReady ready => health.setReady ready

/-- The notice of a part with the name. -/
def notice? (name : String) : Call → Option Notice
  | report part notice => if part = name then some notice else none
  | setReady _ => none

def ready? : Call → Option Bool
  | report .. => none
  | setReady ready => some ready

end Call

/-- The health after some calls, the first of them on a monitor without parts. -/
def after (calls : List Call) : SelfHealth :=
  calls.foldl Call.perform empty

section

variable (calls : List Call)

def noticesOf (name : String) : List Notice :=
  calls.filterMap (·.notice? name)

def lastReport? (name : String) : Option HealthReport :=
  (noticesOf calls name).getLast?.map (·.report)

/-- What was said on whether the monitor is ready. -/
def readiness : List Bool :=
  calls.filterMap Call.ready?

end

/--
The same calls in another order, and perhaps at other times: each part says the same in its order,
and so does who says whether the monitor is ready, but how they take turns is left open.
-/
structure Reordered (calls others : List Call) : Prop where
  words : ∀ name, (noticesOf calls name).map (·.word) = (noticesOf others name).map (·.word)
  readiness : readiness calls = readiness others

/-! One call -/

theorem report?_update (health : SelfHealth) (name other : String) (report : HealthReport) :
    (health.update name report).report? other =
      if name = other then some report else health.report? other :=
  Maps.getElem?_insert ..

theorem perform_report (health : SelfHealth) (name : String) (notice : Notice) :
    (Call.report name notice).perform health = health.update name notice.report := by
  obtain ⟨word, now⟩ := notice
  cases word <;> rfl

theorem report?_perform (health : SelfHealth) (call : Call) (name : String) :
    (call.perform health).report? name =
      ((call.notice? name).map (·.report)).or (health.report? name) := by
  cases call with
  | report part notice =>
    rw [perform_report, report?_update, Call.notice?]
    split <;> rfl
  | setReady ready => rfl

theorem ready_perform (health : SelfHealth) (call : Call) :
    (call.perform health).ready = call.ready?.getD health.ready := by
  cases call with
  | report name notice =>
    rw [perform_report]
    rfl
  | setReady ready => rfl

theorem notice?_eq_some_iff {call : Call} {name : String} {notice : Notice} :
    call.notice? name = some notice ↔ call = .report name notice := by
  cases call with
  | report part given =>
    rw [Call.notice?]
    grind
  | setReady ready => simp [Call.notice?]

/-! Any number of calls -/

theorem after_concat (calls : List Call) (last : Call) :
    after (calls ++ [last]) = last.perform (after calls) :=
  List.foldl_concat ..

/-- The last of what calls tell is what the last call tells, if it tells anything. -/
theorem getLast?_filterMap_concat {α : Type} (told? : Call → Option α) (calls : List Call)
    (last : Call) :
    ((calls ++ [last]).filterMap told?).getLast? =
      (told? last).or (calls.filterMap told?).getLast? := by
  rw [List.filterMap_append, List.getLast?_append]
  cases told : told? last <;> simp [told]

theorem report?_after (calls : List Call) (name : String) :
    (after calls).report? name = lastReport? calls name := by
  induction calls using List.reverseRecOn with
  | nil => exact Std.ExtTreeMap.getElem?_empty
  | append_singleton calls last ih =>
    rw [after_concat, report?_perform, ih, lastReport?, lastReport?, noticesOf, noticesOf,
      getLast?_filterMap_concat, Option.map_or]

theorem ready_after (calls : List Call) :
    (after calls).ready = (readiness calls).getLast?.getD false := by
  induction calls using List.reverseRecOn with
  | nil => rfl
  | append_singleton calls last ih =>
    rw [after_concat, ready_perform, ih, readiness, readiness, getLast?_filterMap_concat]
    cases last.ready? <;> rfl

theorem mem_noticesOf {calls : List Call} {name : String} {notice : Notice} :
    notice ∈ noticesOf calls name ↔ .report name notice ∈ calls := by
  rw [noticesOf, List.mem_filterMap]
  simp only [notice?_eq_some_iff, exists_eq_right]

theorem mem_reports_after {calls : List Call} {name : String} :
    name ∈ (after calls).reports ↔ ∃ notice, .report name notice ∈ calls := by
  have held : (after calls).reports[name]? = lastReport? calls name := report?_after calls name
  rw [Std.ExtTreeMap.mem_iff_isSome_getElem?, held, lastReport?, Option.isSome_map,
    List.getLast?_isSome]
  simp only [← mem_noticesOf]
  exact ⟨List.exists_mem_of_ne_nil _, fun ⟨_, listed⟩ => List.ne_nil_of_mem listed⟩

theorem verdict_lastReport? (calls : List Call) (name : String) :
    (lastReport? calls name).map HealthReport.verdict =
      ((noticesOf calls name).map (·.word)).getLast?.map fun word =>
        (word.status, word.message?) := by
  rw [lastReport?, List.getLast?_map, Option.map_map, Option.map_map]
  rfl

/-! The whole -/

theorem status_isWorst (health : SelfHealth) :
    Health.IsWorst (fun status => ∃ name, (health.report? name).map (·.status) = some status)
      health.status :=
  (Health.worst_isWorst _).congr fun _ => by
    rw [Maps.mem_map_values]
    simp only [Option.map_eq_some_iff, report?]

/-- The map may be gone through in any order. -/
theorem worst_of_perm {health : SelfHealth} {order : List (String × HealthReport)}
    (perm : order.Perm health.reports.toList) :
    Health.worst (order.map (·.2.status)) = health.status := by
  rw [status, Maps.values_eq_map_toList, List.map_map]
  exact Health.worst_perm (perm.map _)

theorem isReady_iff (health : SelfHealth) :
    health.isReady = true ↔ health.ready = true ∧ health.status ≠ .unhealthy := by
  rw [isReady, unreadiness?]
  cases health.ready <;> by_cases bad : health.status = .unhealthy <;> simp [bad]

/-- The last report of some part has the status. -/
def LastStatus (calls : List Call) (status : Health) : Prop :=
  ∃ name, (lastReport? calls name).map (·.status) = some status

theorem status_after (calls : List Call) :
    Health.IsWorst (LastStatus calls) (after calls).status := by
  refine (status_isWorst (after calls)).congr fun status => ?_
  simp only [report?_after, LastStatus]

theorem isReady_after {calls : List Call} :
    (after calls).isReady = true ↔
      (readiness calls).getLast? = some true ∧ ¬ LastStatus calls .unhealthy := by
  rw [isReady_iff, ready_after, Ne, (status_after calls).eq_unhealthy_iff]
  cases (readiness calls).getLast? <;> simp

/-- What is told of a monitor is what its parts said last. -/
structure Told (calls : List Call) (health : SelfHealth) : Prop where
  parts : ∀ name, name ∈ health.reports ↔ ∃ notice, .report name notice ∈ calls
  reports : ∀ name, health.report? name = lastReport? calls name
  status : Health.IsWorst (LastStatus calls) health.status
  /-- In whatever order the reports are gone through. -/
  unordered : ∀ order : List (String × HealthReport), order.Perm health.reports.toList →
    Health.worst (order.map (·.2.status)) = health.status
  ready : health.isReady = true ↔
    (readiness calls).getLast? = some true ∧ ¬ LastStatus calls .unhealthy

/-- Of two monitors the same is told, but for the times of the reports. -/
structure Alike (left right : SelfHealth) : Prop where
  reports : ∀ name, (left.report? name).map (·.verdict) = (right.report? name).map (·.verdict)
  status : left.status = right.status
  ready : left.isReady = right.isReady
  reason : left.unreadiness? = right.unreadiness?

section

variable {calls others : List Call} (reordered : Reordered calls others)

include reordered

theorem Reordered.verdict (name : String) :
    (lastReport? calls name).map (·.verdict) = (lastReport? others name).map (·.verdict) := by
  rw [verdict_lastReport?, verdict_lastReport?, reordered.words]

theorem Reordered.lastStatus (status : Health) :
    LastStatus calls status ↔ LastStatus others status := by
  have same (name : String) :
      (lastReport? calls name).map (·.status) = (lastReport? others name).map (·.status) := by
    have first := congrArg (Option.map Prod.fst) (reordered.verdict name)
    rw [Option.map_map, Option.map_map] at first
    exact first
  simp only [LastStatus, same]

theorem Reordered.alike : (after calls).Alike (after others) := by
  have status : (after calls).status = (after others).status :=
    ((status_after calls).congr reordered.lastStatus).unique (status_after others)
  have reason : (after calls).unreadiness? = (after others).unreadiness? := by
    rw [unreadiness?, unreadiness?, ready_after, ready_after, reordered.readiness, status]
  refine ⟨fun name => ?_, status, congrArg (·.isNone) reason, reason⟩
  rw [report?_after, report?_after]
  exact reordered.verdict name

end

/--
After any calls there are exactly the parts that have ever reported, each as it reported last. The
whole is as bad as the worst of these reports, in whatever order they are gone through, and it is
ready exactly when that was said last and none of them is that a part is unhealthy. None of this
hangs on how the calls of different parts take turns.
-/
theorem follows_last_reports (calls : List Call) :
    (after calls).Told calls ∧
      ∀ others, Reordered calls others → (after calls).Alike (after others) := by
  have told : (after calls).Told calls :=
    { parts := fun _ => mem_reports_after
      reports := report?_after calls
      status := status_after calls
      unordered := fun _ => worst_of_perm
      ready := isReady_after }
  exact ⟨told, fun _ reordered => reordered.alike⟩

/-- A part that stops while another one recovers, as they take turns and one after the other. -/
theorem follows_last_reports_interleaved :
    let topology (word : Word) (seconds : Int) : Call :=
      .report "topology" ⟨word, ⟨seconds * 1000000000⟩⟩
    let prober (word : Word) (seconds : Int) : Call :=
      .report "health_prober" ⟨word, ⟨seconds * 1000000000⟩⟩
    let calls := [topology .registered 0, prober .registered 0, .setReady true,
      topology (.degraded "no answer") 5, prober (.unhealthy "stopped") 6, topology .healthy 7]
    let others := [prober .registered 0, prober (.unhealthy "stopped") 1, topology .registered 2,
      topology (.degraded "no answer") 3, topology .healthy 4, .setReady true]
    let order := (after calls).reports.toList.reverse
    Reordered calls others ∧ order.Perm (after calls).reports.toList ∧
      Health.worst (order.map (·.2.status)) = .unhealthy ∧
      (after calls).report? "health_prober" = some ⟨.unhealthy, some "stopped", 6⟩ ∧
      (after calls).report? "orchestrator" = none ∧ (after calls).isReady = false ∧
      (after calls).Alike (after others) := by
  intro topology prober calls others order
  have reordered : Reordered calls others := by
    refine ⟨fun name => ?_, rfl⟩
    by_cases first : "topology" = name
    · subst first
      rfl
    · by_cases second : "health_prober" = name
      · subst second
        rfl
      · simp [calls, others, topology, prober, noticesOf, Call.notice?, first, second]
  have perm : order.Perm (after calls).reports.toList := List.reverse_perm _
  obtain ⟨told, alike⟩ := follows_last_reports calls
  have stopped : LastStatus calls .unhealthy := ⟨"health_prober", rfl⟩
  refine ⟨reordered, perm, ?_, told.reports _, told.reports _, ?_, alike others reordered⟩
  · rw [told.unordered order perm]
    exact told.status.eq_unhealthy_iff.mpr stopped
  · rw [Bool.eq_false_iff, Ne, told.ready]
    exact fun ready => ready.2 stopped

end SelfHealth
end CoreWatch
