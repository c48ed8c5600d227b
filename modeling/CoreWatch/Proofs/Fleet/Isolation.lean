import CoreWatch.Proofs.Fleet.Publisher
import Mathlib.Data.List.Forall2

set_option autoImplicit false

/-!
What happens to the collector of one component does not depend on the other components. Seen from
one component, a pass with a launcher that always gives a collector is a function of what its
collector watches so far and of what the component wants now. Only the port under which the
collector serves depends on the others.
-/

namespace CoreWatch.Fleet

/-- What a collector watches. -/
structure Watch where
  function : NetworkFunction
  address : String
  sourcePort : Nat
deriving DecidableEq, Repr

/-- What is watched by a collector that is asked for; its own port is no part of that. -/
def watchOf (spec : Collector.Spec) : Watch :=
  ⟨spec.function, spec.address, spec.sourcePort⟩

/-- What a component has a collector watch that is made for it. -/
def Requirement.watch (sourcePort : Nat) (requirement : Requirement) : Watch :=
  ⟨requirement.function, requirement.address, sourcePort⟩

/-- What the collector of a component watches, if there is one. -/
def watch? (fleet : Fleet) (name : String) : Option Watch :=
  fleet.members[name]?.map fun member => watchOf member.spec

/-- What a pass does for one component. -/
structure Deed where
  stopped : Bool
  started : Bool
  /-- What the launcher is asked for on its behalf. -/
  asked : List Watch
  /-- What its collector watches after the pass. -/
  watch : Option Watch
deriving DecidableEq, Repr

def Reconciliation.deed (done : Reconciliation) (name : String) : Deed where
  stopped := done.outcome.stopped.contains name
  started := done.outcome.started.contains name
  asked := (done.requests.filter (·.component == name)).map watchOf
  watch := done.fleet.watch? name

/-! A component by itself -/

/-- Whether a collector can stay that watches this. -/
def stays : Option Watch → Option Requirement → Bool
  | some watch, some requirement =>
    watch.function = requirement.function && watch.address = requirement.address
  | _, _ => false

/-- What a pass does for a component that has and wants this. -/
def Deed.alone (sourcePort : Nat) (held : Option Watch) (wanted : Option Requirement) : Deed :=
  if stays held wanted then ⟨false, false, [], held⟩
  else
    let made := wanted.map (·.watch sourcePort)
    ⟨held.isSome, made.isSome, made.toList, made⟩

/-- What passes do, one after another, for a component that wants this in each of them. -/
def Deed.allAlone (sourcePort : Nat) : Option Watch → List (Option Requirement) → List Deed
  | _, [] => []
  | held, wanted :: rest =>
    let deed := Deed.alone sourcePort held wanted
    deed :: allAlone sourcePort deed.watch rest

/-! One pass -/

/-- A launcher that answers every request with a collector. -/
def Launcher.Obliging (launcher : Launcher) : Prop :=
  ∀ spec, launcher.accepts spec = true

/-- How the collectors that a pass launches stand between two launches. -/
structure Pass.Aimed (kept : Fleet) (pass : Pass) : Prop where
  settings : pass.fleet.settings = kept.settings
  asked : ∀ spec ∈ pass.requests, spec.sourcePort = kept.settings.sourcePort
  made : ∀ (name : String) (member : Member), pass.fleet.members[name]? = some member →
    kept.members[name]? = some member ∨ member.spec.sourcePort = kept.settings.sourcePort

theorem Pass.Aimed.launch {launcher : Launcher} {now : Moment} {kept : Fleet} {pass : Pass}
    (aimed : pass.Aimed kept) (wanted : String × Requirement) :
    (pass.launch launcher now wanted).Aimed kept := by
  have source : (pass.request wanted).sourcePort = kept.settings.sourcePort :=
    congrArg Settings.sourcePort aimed.settings
  have asked : ∀ spec ∈ (pass.launch launcher now wanted).requests,
      spec.sourcePort = kept.settings.sourcePort := by
    intro spec listed
    rw [requests_launch] at listed
    rcases List.mem_append.mp listed with before | last
    · exact aimed.asked spec before
    · rw [List.mem_singleton.mp last]
      exact source
  rcases launch_cases launcher now pass wanted with ⟨launch, -, same⟩ | ⟨error, -, same⟩
  · rw [same] at asked ⊢
    refine ⟨aimed.settings, asked, fun name member there => ?_⟩
    rcases members_accept there with ⟨-, -, spec⟩ | old
    · rw [spec]
      exact .inr source
    · exact aimed.made name member old
  · rw [same] at asked ⊢
    exact ⟨aimed.settings, asked, aimed.made⟩

section

variable (fleet : Fleet) (launcher : Launcher) (now : Moment) (topology : Topology)

theorem turnOver_aimed :
    (fleet.turnOver launcher now topology).Aimed (fleet.remaining topology) :=
  launchAll_keeps (P := fun pass => pass.Aimed _) _ (fun entry _ _ held => held.launch entry)
    ⟨rfl, fun _ none => (List.not_mem_nil none).elim, fun _ _ there => .inl there⟩

theorem settings_remaining : (fleet.remaining topology).settings = fleet.settings := by
  have begun : (fleet.begin topology).settings = fleet.settings := rfl
  exact stopStale_keeps (P := fun later => later.settings = fleet.settings)
    (fun _ _ _ held _ => held) begun _

end

section

variable {fleet : Fleet} {launcher : Launcher} {now : Moment} {topology : Topology} {name : String}

theorem wanted_iff_stays {member : Member} (found : fleet.members[name]? = some member) :
    member.Wanted (required topology) name ↔
      stays (fleet.watch? name) (required topology)[name]? = true := by
  rw [watch?, found, Option.map_some, Member.Wanted]
  cases (required topology)[name]? with
  | none => simp [stays]
  | some requirement =>
    have same : stays (some (watchOf member.spec)) (some requirement) = member.meets requirement :=
      rfl
    simp [same]

theorem mem_remaining_iff_stays :
    name ∈ (fleet.remaining topology).members ↔
      stays (fleet.watch? name) (required topology)[name]? = true := by
  rw [Maps.mem_iff_exists]
  simp only [members_remaining]
  constructor
  · rintro ⟨member, found, wanted⟩
    exact (wanted_iff_stays found).mp wanted
  · intro kept
    cases found : fleet.members[name]? with
    | none =>
      rw [watch?, found] at kept
      cases kept
    | some member => exact ⟨member, rfl, (wanted_iff_stays found).mpr kept⟩

theorem mem_stopped_iff :
    name ∈ (fleet.turnOver launcher now topology).outcome.stopped ↔
      (fleet.watch? name).isSome = true ∧
        stays (fleet.watch? name) (required topology)[name]? = false := by
  rw [mem_stopped_turnOver]
  cases found : fleet.members[name]? with
  | none => simp [watch?, found]
  | some member =>
    have kept : member.Wanted (required topology) name ↔ _ := wanted_iff_stays found
    rw [← Bool.not_eq_true, ← kept]
    simp [watch?, found]

theorem mem_requests_iff :
    name ∈ (fleet.turnOver launcher now topology).requests.map (·.component) ↔
      (required topology)[name]?.isSome = true ∧
        stays (fleet.watch? name) (required topology)[name]? = false := by
  rw [mem_requests_turnOver, mem_remaining_iff_stays, Std.ExtTreeMap.mem_iff_isSome_getElem?,
    Bool.not_eq_true]

/-- An obliging launcher fails no component. -/
theorem failed_eq_nil (obliging : launcher.Obliging) :
    (fleet.turnOver launcher now topology).outcome.failed = [] := by
  have none : ((fleet.turnOver launcher now topology).requests.filter
      fun spec => !launcher.accepts spec) = [] :=
    List.filter_eq_nil_iff.mpr fun spec _ => by rw [obliging spec]; decide
  rw [(turnOver_consistent fleet launcher now topology).failed, none, List.map_nil]

theorem mem_started_iff (obliging : launcher.Obliging) :
    name ∈ (fleet.turnOver launcher now topology).outcome.started ↔
      (required topology)[name]?.isSome = true ∧
        stays (fleet.watch? name) (required topology)[name]? = false := by
  have answered : name ∈ (fleet.turnOver launcher now topology).requests.map (·.component) ↔
      name ∈ (fleet.turnOver launcher now topology).outcome.started := by
    rw [mem_requests_iff_answered, failed_eq_nil obliging]
    exact or_iff_left List.not_mem_nil
  rw [← answered, mem_requests_iff]

/-- What is asked for on behalf of a component is what it wants. -/
theorem asked_turnOver :
    ((fleet.turnOver launcher now topology).requests.filter (·.component == name)).map watchOf =
      if stays (fleet.watch? name) (required topology)[name]? then []
      else ((required topology)[name]?.map (·.watch fleet.settings.sourcePort)).toList := by
  have consistent := turnOver_consistent fleet launcher now topology
  have aimed := turnOver_aimed fleet launcher now topology
  by_cases listed : name ∈ (fleet.turnOver launcher now topology).requests.map (·.component)
  · -- No component is asked for twice, so this is the only request on its behalf.
    obtain ⟨-, leaves⟩ := mem_requests_iff.mp listed
    obtain ⟨spec, asked, rfl⟩ := List.mem_map.mp listed
    have source : spec.sourcePort = fleet.settings.sourcePort :=
      (aimed.asked spec asked).trans (congrArg _ (settings_remaining fleet topology))
    rw [Maps.filter_key_eq (nodup_requests_turnOver fleet launcher now topology) asked, leaves,
      consistent.asked spec asked, ← source]
    rfl
  · have none : (fleet.turnOver launcher now topology).requests.filter (·.component == name) = [] :=
      List.filter_eq_nil_iff.mpr fun spec asked same =>
        listed (List.mem_map.mpr ⟨spec, asked, eq_of_beq same⟩)
    rw [none]
    rw [mem_requests_iff] at listed
    split
    next => rfl
    next leaves =>
      have unwanted : (required topology)[name]? = Option.none := by
        by_contra wanted
        exact listed ⟨Option.isSome_iff_ne_none.mpr wanted, Bool.not_eq_true _ ▸ leaves⟩
      rw [unwanted]
      rfl

/-- After a pass with an obliging launcher every component has the collector that it wants. -/
theorem watch_turnOver (obliging : launcher.Obliging) :
    (fleet.turnOver launcher now topology).fleet.watch? name =
      if stays (fleet.watch? name) (required topology)[name]? then fleet.watch? name
      else (required topology)[name]?.map (·.watch fleet.settings.sourcePort) := by
  have consistent := turnOver_consistent fleet launcher now topology
  have aimed := turnOver_aimed fleet launcher now topology
  have there := mem_turnOver fleet launcher now topology name
  rw [failed_eq_nil obliging] at there
  split
  next kept =>
    -- The collector outlasts the stops, and no launch takes its place.
    obtain ⟨member, found⟩ := Maps.mem_iff_exists.mp (mem_remaining_iff_stays.mpr kept)
    rw [watch?, consistent.keeps name member found, watch?, (members_remaining.mp found).1]
  next leaves =>
    cases wanted : (required topology)[name]? with
    | none =>
      have absent : name ∉ (fleet.turnOver launcher now topology).fleet.members := by
        rw [there, Std.ExtTreeMap.mem_iff_isSome_getElem?, wanted]
        exact fun both => Bool.false_ne_true both.1
      rw [watch?, Std.ExtTreeMap.getElem?_eq_none absent]
      rfl
    | some requirement =>
      -- There is a collector, and as none has stayed it was made in this pass.
      have present := there.mpr ⟨Maps.mem_iff_exists.mpr ⟨requirement, wanted⟩, List.not_mem_nil⟩
      obtain ⟨member, found⟩ := Maps.mem_iff_exists.mp present
      obtain ⟨same, asked, meets⟩ := consistent.wanted name member found
      obtain ⟨function, address⟩ := (meets_iff _ _).mp meets
      have source : member.spec.sourcePort = fleet.settings.sourcePort := by
        rcases aimed.made name member found with old | new
        · exact (leaves (mem_remaining_iff_stays.mp (Maps.mem_iff_exists.mpr ⟨member, old⟩))).elim
        · exact new.trans (congrArg _ (settings_remaining fleet topology))
      rw [wanted, Option.some.injEq] at asked
      rw [watch?, found, Option.map_some, Option.map_some, watchOf, Requirement.watch, asked,
        function, address, source]

end

/-- Seen from one component, a pass sees no other. -/
theorem deed_reconcile (fleet : Fleet) {launcher : Launcher} (obliging : launcher.Obliging)
    (write : Scrape.Document → Bool) (now : Moment) (topology : Topology) (name : String) :
    (fleet.reconcile launcher write now topology).deed name =
      .alone fleet.settings.sourcePort (fleet.watch? name) (required topology)[name]? := by
  have stopped : (fleet.turnOver launcher now topology).outcome.stopped.contains name =
      ((fleet.watch? name).isSome && !stays (fleet.watch? name) (required topology)[name]?) := by
    rw [Bool.eq_iff_iff, List.contains_iff_mem, mem_stopped_iff, Bool.and_eq_true,
      Bool.not_eq_true']
  have started : (fleet.turnOver launcher now topology).outcome.started.contains name =
      ((required topology)[name]?.isSome &&
        !stays (fleet.watch? name) (required topology)[name]?) := by
    rw [Bool.eq_iff_iff, List.contains_iff_mem, mem_started_iff obliging, Bool.and_eq_true,
      Bool.not_eq_true']
  have watch : (fleet.reconcile launcher write now topology).fleet.watch? name =
      (fleet.turnOver launcher now topology).fleet.watch? name := by
    rw [watch?, members_reconcile, watch?]
  rw [Reconciliation.deed, outcome_reconcile, requests_reconcile, stopped, started, asked_turnOver,
    watch, watch_turnOver obliging, Deed.alone]
  cases stays (fleet.watch? name) (required topology)[name]? with
  | true => simp only [↓reduceIte, Bool.not_true, Bool.and_false]
  | false =>
    simp only [Bool.false_eq_true, ↓reduceIte, Bool.not_false, Bool.and_true, Option.isSome_map]

/-! Runs -/

/-- Seen from one component, a run sees no other. -/
theorem deeds_turns {visits : List Visit} (obliging : ∀ visit ∈ visits, visit.launcher.Obliging)
    (publisher : Publisher) (name : String) :
    (publisher.turns visits).map (·.done.deed name) =
      Deed.allAlone publisher.fleet.settings.sourcePort (publisher.fleet.watch? name)
        (visits.map fun visit => (required visit.topology)[name]?) := by
  induction visits generalizing publisher with
  | nil => rfl
  | cons visit rest ih =>
    have first : (publisher.reconcile visit).deed name = _ :=
      deed_reconcile publisher.fleet (obliging visit List.mem_cons_self) _ visit.now visit.topology
        name
    have later := ih (fun other listed => obliging other (List.mem_cons_of_mem _ listed))
      (publisher.pass visit)
    rw [Publisher.settings_pass] at later
    rw [Publisher.turns, List.map_cons, List.map_cons, Deed.allAlone, ← first, later]
    rfl

/-! Two runs -/

/-- What a topology tells of a component, apart from its ports. -/
def told? (topology : Topology) (name : String) : Option Component :=
  (topology.get? name).map fun component => { component with ports := [] }

theorem required_eq (topology : Topology) (name : String) :
    (required topology)[name]? =
      (told? topology name).bind fun component =>
        if component.running then
          component.function?.map fun function => ⟨function, component.address⟩
        else none := by
  rw [required, Std.ExtTreeMap.getElem?_filterMap', told?, Option.bind_map]
  rfl

/-- Topologies that tell the same of a component have it want the same. -/
theorem wanted_eq {name : String} {left right : List Visit}
    (alike : List.Forall₂
      (fun first second => told? first.topology name = told? second.topology name) left right) :
    (left.map fun visit => (required visit.topology)[name]?) =
      right.map fun visit => (required visit.topology)[name]? := by
  induction alike with
  | nil => rfl
  | cons same _ ih => rw [List.map_cons, List.map_cons, ih, required_eq, required_eq, same]

/--
Whatever the other components do, the collector of a component is launched and stopped in the same
passes, for the same function, address and port of its source.
-/
theorem deeds_isolated {settings : Settings} {name : String} {left right : List Visit}
    (obliging : ∀ visit ∈ left ++ right, visit.launcher.Obliging)
    (alike : List.Forall₂
      (fun first second => told? first.topology name = told? second.topology name) left right)
    (files files' : FileTree) :
    ((Publisher.begin settings files).turns left).map (·.done.deed name) =
      ((Publisher.begin settings files').turns right).map (·.done.deed name) := by
  rw [deeds_turns fun visit listed => obliging visit (List.mem_append_left _ listed),
    deeds_turns fun visit listed => obliging visit (List.mem_append_right _ listed),
    wanted_eq alike]
  rfl

/-- Another access and mobility function takes the first port, which makes no other difference. -/
theorem deeds_isolated_amf :
    let launcher : Launcher := fun spec => .ok { port := spec.port, settings := {} }
    let visits (topologies : List (List Component)) : List Visit :=
      topologies.map fun components => ⟨.undisturbed launcher ⟨0⟩ "", .ofComponents components⟩
    let left := visits [
      [⟨"amf1", "", "10.0.0.1", true, []⟩, ⟨"amf2", "", "10.0.0.2", true, []⟩],
      [⟨"amf2", "", "10.0.0.2", true, []⟩],
      [⟨"amf1", "", "10.0.0.1", true, []⟩, ⟨"amf2", "", "10.0.0.3", true, []⟩]]
    let right := visits [
      [⟨"amf2", "", "10.0.0.2", true, []⟩],
      [⟨"amf2", "", "10.0.0.2", true, [38412]⟩, ⟨"smf", "", "10.0.0.4", true, []⟩],
      [⟨"amf2", "", "10.0.0.3", true, []⟩, ⟨"smf", "", "10.0.0.5", true, []⟩]]
    let start := Publisher.begin {} .empty
    (∀ visit ∈ left ++ right, visit.launcher.Obliging) ∧
      List.Forall₂
        (fun first second => told? first.topology "amf2" = told? second.topology "amf2")
        left right ∧
      (start.turns left).map (·.done.deed "amf2") = (start.turns right).map (·.done.deed "amf2") ∧
      ((start.turns left).map (·.done.deed "amf2")).map (·.started) = [true, false, true] ∧
      (start.turns left).map (·.done.fleet.members["amf2"]?.map (·.spec.port)) ≠
        (start.turns right).map (·.done.fleet.members["amf2"]?.map (·.spec.port)) := by
  intro launcher visits left right start
  have obliging : ∀ visit ∈ left ++ right, visit.launcher.Obliging := by
    intro visit listed
    rcases List.mem_append.mp listed with first | second
    · obtain ⟨components, -, rfl⟩ := List.mem_map.mp first
      exact fun spec => rfl
    · obtain ⟨components, -, rfl⟩ := List.mem_map.mp second
      exact fun spec => rfl
  have alike : List.Forall₂
      (fun first second => told? first.topology "amf2" = told? second.topology "amf2")
      left right := by
    refine .cons ?_ (.cons ?_ (.cons ?_ .nil)) <;> decide +kernel
  exact ⟨obliging, alike, deeds_isolated obliging alike .empty .empty, by decide +kernel,
    by decide +kernel⟩

end CoreWatch.Fleet
