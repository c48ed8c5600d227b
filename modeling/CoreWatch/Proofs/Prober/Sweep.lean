import CoreWatch.Prober.Sweep
import CoreWatch.Proofs.Topology.Running

set_option autoImplicit false

/-!
What one sweep does to the histories: exactly the running components have one afterwards, and what a
check shows is added to what was known of its component.
-/

namespace CoreWatch

namespace Prober

/-! Single steps -/

section

variable (prober : Prober)

/-- What is not running is forgotten. -/
theorem historyOf_retain (topology : Topology) (name : String) :
    (prober.retain topology).historyOf name =
      if topology.isRunning name then prober.historyOf name else .unknown name := by
  rw [historyOf, retain, Maps.getElem?_filter, historyOf]
  split <;> rfl

theorem isRunning_of_mem_retain {topology : Topology} {name : String}
    (kept : name ∈ (prober.retain topology).histories) : topology.isRunning name = true := by
  obtain ⟨_, running⟩ := Std.ExtTreeMap.mem_filter.mp kept
  rwa [Std.ExtTreeMap.getKey_eq] at running

/-- Taking a component in tells nothing new about it. -/
theorem historyOf_enroll (component name : String) :
    (prober.enroll component).historyOf name = prober.historyOf name := by
  rw [historyOf, enroll, Maps.getElem?_insert]
  split
  next same =>
    subst same
    rfl
  next => rfl

theorem mem_enroll (component name : String) :
    name ∈ (prober.enroll component).histories ↔ component = name ∨ name ∈ prober.histories := by
  rw [enroll, Std.ExtTreeMap.mem_insert, Std.LawfulEqCmp.compare_eq_iff_eq]

theorem historyOf_record (check : Check) (result : ProbeResult) (now : Int) (name : String) :
    (prober.record check result now).historyOf name =
      if check.component = name then (prober.historyOf name).record check result now
      else prober.historyOf name := by
  rw [historyOf, record, Maps.getElem?_insert]
  split
  next same =>
    subst same
    rfl
  next => rfl

theorem mem_record (check : Check) (result : ProbeResult) (now : Int) (name : String) :
    name ∈ (prober.record check result now).histories ↔
      check.component = name ∨ name ∈ prober.histories := by
  rw [record, Std.ExtTreeMap.mem_insert, Std.LawfulEqCmp.compare_eq_iff_eq]

end

/-! All checks of a sweep -/

/-- Adds what each of several checks shows. -/
def recordAll (prober : Prober) (probe : Check → ProbeResult) (now : Int) (checks : List Check) :
    Prober :=
  checks.foldl (fun prober check => prober.record check (probe check) now) prober

/-- Takes in several components. -/
def enrollAll (prober : Prober) (components : List Component) : Prober :=
  components.foldl (fun prober component => prober.enroll component.name) prober

theorem sweep_eq (prober : Prober) (policy : CheckPolicy) (topology : Topology)
    (probe : Check → ProbeResult) (now : Int) :
    prober.sweep policy topology probe now =
      ((prober.retain topology).enrollAll
        (topology.running.filter fun component => (policy.check? component).isNone)).recordAll
          probe now (checks policy topology) :=
  rfl

theorem historyOf_enrollAll (prober : Prober) (components : List Component) (name : String) :
    (prober.enrollAll components).historyOf name = prober.historyOf name := by
  induction components generalizing prober with
  | nil => rfl
  | cons first rest ih =>
    rw [enrollAll, List.foldl_cons]
    exact (ih _).trans (historyOf_enroll prober first.name name)

/-- Whatever is done for each of several items, if each adds one component all of them are there. -/
theorem mem_foldl {α : Type} {step : Prober → α → Prober} {key : α → String}
    (each : ∀ prober item name, name ∈ (step prober item).histories ↔
      key item = name ∨ name ∈ prober.histories)
    (prober : Prober) (items : List α) {name : String} :
    name ∈ (items.foldl step prober).histories ↔
      name ∈ items.map key ∨ name ∈ prober.histories := by
  induction items generalizing prober with
  | nil => simp
  | cons first rest ih =>
    rw [List.foldl_cons, ih, each, List.map_cons, List.mem_cons, ← or_assoc,
      or_comm (a := name ∈ _), eq_comm]

theorem mem_enrollAll (prober : Prober) (components : List Component) {name : String} :
    name ∈ (prober.enrollAll components).histories ↔
      name ∈ components.map (·.name) ∨ name ∈ prober.histories :=
  mem_foldl (fun prober component => mem_enroll prober component.name) prober components

section

variable (probe : Check → ProbeResult) (now : Int)

theorem historyOf_recordAll_of_notMem (prober : Prober) {checks : List Check} {name : String}
    (other : name ∉ checks.map (·.component)) :
    (prober.recordAll probe now checks).historyOf name = prober.historyOf name := by
  induction checks generalizing prober with
  | nil => rfl
  | cons first rest ih =>
    rw [List.map_cons, List.mem_cons, not_or] at other
    rw [recordAll, List.foldl_cons]
    refine (ih _ other.2).trans ?_
    rw [historyOf_record, if_neg (Ne.symm other.1)]

/-- When each component has one check at most, that check is what is added to its history. -/
theorem historyOf_recordAll_of_mem (prober : Prober) {checks : List Check}
    (distinct : (checks.map (·.component)).Nodup) {check : Check} (listed : check ∈ checks) :
    (prober.recordAll probe now checks).historyOf check.component =
      (prober.historyOf check.component).record check (probe check) now := by
  induction checks generalizing prober with
  | nil => cases listed
  | cons first rest ih =>
    rw [List.map_cons, List.nodup_cons] at distinct
    rw [recordAll, List.foldl_cons]
    rcases List.mem_cons.mp listed with rfl | later
    · refine (historyOf_recordAll_of_notMem probe now _ distinct.1).trans ?_
      rw [historyOf_record, if_pos rfl]
    · have apart : first.component ≠ check.component := fun same =>
        distinct.1 (same ▸ List.mem_map_of_mem later)
      refine (ih _ distinct.2 later).trans ?_
      rw [historyOf_record, if_neg apart]

theorem mem_recordAll (prober : Prober) (checks : List Check) {name : String} :
    name ∈ (prober.recordAll probe now checks).histories ↔
      name ∈ checks.map (·.component) ∨ name ∈ prober.histories :=
  mem_foldl (fun prober check => mem_record prober check (probe check) now) prober checks

end

/-! Sweeps -/

/-- The check that a sweep makes of a component, if any. -/
def checkFor? (policy : CheckPolicy) (topology : Topology) (name : String) : Option Check :=
  match topology.get? name with
  | some component => if component.running then policy.check? component else none
  | none => none

theorem checkFor?_eq_some {policy : CheckPolicy} {topology : Topology} (named : topology.Named)
    {name : String} {check : Check} :
    checkFor? policy topology name = some check ↔
      check ∈ checks policy topology ∧ check.component = name := by
  rw [checks, List.mem_filterMap]
  constructor
  · intro made
    unfold checkFor? at made
    split at made
    next component found =>
      split at made
      next up =>
        obtain rfl := named _ _ found
        exact ⟨⟨component, named.mem_running.mpr ⟨found, up⟩, made⟩,
          CheckPolicy.component_check? made⟩
      next => cases made
    next => cases made
  · rintro ⟨⟨component, listed, made⟩, rfl⟩
    obtain ⟨found, up⟩ := named.mem_running.mp listed
    rw [checkFor?, CheckPolicy.component_check? made, found]
    exact (if_pos up).trans made

theorem nodup_checks (policy : CheckPolicy) {topology : Topology} (named : topology.Named) :
    ((checks policy topology).map (·.component)).Nodup := by
  have names : ((checks policy topology).map (·.component)).Sublist topology.runningNames := by
    rw [checks, Topology.runningNames]
    induction topology.running with
    | nil => exact List.Sublist.slnil
    | cons first rest ih =>
      cases made : policy.check? first with
      | none =>
        rw [List.filterMap_cons_none made]
        exact ih.cons _
      | some check =>
        rw [List.filterMap_cons_some made, List.map_cons, List.map_cons,
          CheckPolicy.component_check? made]
        exact ih.cons_cons _
  exact (named.runningNames_ascending.imp fun before => String.ne_of_lt before).sublist names

section

variable (prober : Prober) (policy : CheckPolicy) {topology : Topology} (named : topology.Named)
  (probe : Check → ProbeResult) (now : Int) {name : String}

include named

/-- A sweep adds what its check shows to what was known of a running component. -/
theorem historyOf_sweep_checked {check : Check}
    (made : checkFor? policy topology name = some check)
    (running : topology.isRunning name = true) :
    (prober.sweep policy topology probe now).historyOf name =
      (prober.historyOf name).record check (probe check) now := by
  obtain ⟨listed, rfl⟩ := (checkFor?_eq_some named).mp made
  rw [sweep_eq, historyOf_recordAll_of_mem probe now _ (nodup_checks policy named) listed,
    historyOf_enrollAll, historyOf_retain, if_pos running]

/-- What is known of a running component that has no check stays as it is. -/
theorem historyOf_sweep_idle (idle : checkFor? policy topology name = none)
    (running : topology.isRunning name = true) :
    (prober.sweep policy topology probe now).historyOf name = prober.historyOf name := by
  have other : name ∉ (checks policy topology).map (·.component) := by
    intro listed
    obtain ⟨check, made, same⟩ := List.mem_map.mp listed
    rw [(checkFor?_eq_some named).mpr ⟨made, same⟩] at idle
    cases idle
  rw [sweep_eq, historyOf_recordAll_of_notMem probe now _ other, historyOf_enrollAll,
    historyOf_retain, if_pos running]

/-- After a sweep exactly the running components have a history. -/
theorem mem_sweep :
    name ∈ (prober.sweep policy topology probe now).histories ↔ topology.isRunning name = true := by
  rw [sweep_eq, mem_recordAll, mem_enrollAll, List.mem_map, List.mem_map]
  constructor
  · rintro (⟨check, made, rfl⟩ | ⟨component, idle, rfl⟩ | kept)
    · obtain ⟨component, listed, derived⟩ := List.mem_filterMap.mp made
      rw [CheckPolicy.component_check? derived]
      exact named.mem_runningNames.mp (List.mem_map_of_mem listed)
    · exact named.mem_runningNames.mp (List.mem_map_of_mem (List.mem_filter.mp idle).1)
    · exact isRunning_of_mem_retain prober kept
  · intro running
    rw [← named.mem_runningNames, Topology.runningNames, List.mem_map] at running
    obtain ⟨component, listed, rfl⟩ := running
    cases made : policy.check? component with
    | none =>
      have idle : (policy.check? component).isNone = true := Option.isNone_iff_eq_none.mpr made
      exact Or.inr (Or.inl ⟨component, List.mem_filter.mpr ⟨listed, idle⟩, rfl⟩)
    | some check =>
      have listed' : check ∈ checks policy topology :=
        List.mem_filterMap.mpr ⟨component, listed, made⟩
      exact Or.inl ⟨check, listed', CheckPolicy.component_check? made⟩

theorem keys_sweep :
    (prober.sweep policy topology probe now).histories.keys = topology.runningNames := by
  refine Maps.eq_of_ascending (Maps.keys_ascending _) named.runningNames_ascending fun name => ?_
  rw [Std.ExtTreeMap.mem_keys, mem_sweep prober policy named, named.mem_runningNames]

end

end Prober
end CoreWatch
