import CoreWatch.Fleet.Reconcile
import CoreWatch.Proofs.Maps

set_option autoImplicit false

/-!
What a pass does, step by step: which collectors it stops, what it asks the launcher for, and which
collectors there are between two launches.
-/

namespace CoreWatch.Fleet

/-- A collector that a component of that name still wants as it is. -/
def Member.Wanted (member : Member) (required : Std.ExtTreeMap String Requirement)
    (name : String) : Prop :=
  ∃ requirement, required[name]? = some requirement ∧ member.meets requirement = true

theorem meets_iff (member : Member) (requirement : Requirement) :
    member.meets requirement = true ↔
      member.spec.function = requirement.function ∧ member.spec.address = requirement.address := by
  simp only [Member.meets, Bool.and_eq_true, decide_eq_true_eq]

/-! Stopping -/

theorem mem_stale {fleet : Fleet} {required : Std.ExtTreeMap String Requirement} {name : String}
    {member : Member} :
    (name, member) ∈ fleet.stale required ↔
      fleet.members[name]? = some member ∧ ¬ member.Wanted required name := by
  simp only [stale, List.mem_filter, Std.ExtTreeMap.mem_toList_iff_getElem?_eq_some]
  refine and_congr_right fun _ => ?_
  cases found : required[name]? with
  | none => simp [Member.Wanted, found]
  | some requirement => simp [Member.Wanted, found]

theorem nodup_stale (fleet : Fleet) (required : Std.ExtTreeMap String Requirement) :
    ((fleet.stale required).map Prod.fst).Nodup :=
  (List.filter_sublist.map Prod.fst).nodup (Maps.nodup_toList_keys fleet.members)

theorem members_stop (fleet : Fleet) (name : String) (member : Member) (other : String) :
    (fleet.stop name member).members[other]? =
      if name = other then none else fleet.members[other]? :=
  Maps.getElem?_erase ..

@[simp] theorem stopAll_nil (fleet : Fleet) : fleet.stopAll [] = fleet := rfl

@[simp] theorem stopAll_cons (fleet : Fleet) (entry : String × Member)
    (rest : List (String × Member)) :
    fleet.stopAll (entry :: rest) = (fleet.stop entry.1 entry.2).stopAll rest := rfl

theorem members_stopAll (fleet : Fleet) (entries : List (String × Member)) (name : String) :
    (fleet.stopAll entries).members[name]? =
      if name ∈ entries.map Prod.fst then none else fleet.members[name]? := by
  induction entries generalizing fleet with
  | nil => rfl
  | cons entry rest ih =>
    rw [stopAll_cons, ih, members_stop]
    by_cases here : entry.1 = name
    · simp [here]
    · have elsewhere : name ∈ (entry :: rest).map Prod.fst ↔ name ∈ rest.map Prod.fst := by
        rw [List.map_cons, List.mem_cons]
        exact or_iff_right fun same => here same.symm
      simp only [elsewhere, here, ↓reduceIte]

@[simp] theorem launches_stopAll (fleet : Fleet) (entries : List (String × Member)) :
    (fleet.stopAll entries).launches = fleet.launches := by
  induction entries generalizing fleet with
  | nil => rfl
  | cons entry rest ih => simp [ih, stop]

/-- What the stop of a collector that is there keeps holds after all stops. -/
theorem stopAll_keeps {P : Fleet → Prop}
    (kept : ∀ (fleet : Fleet) (name : String) (member : Member), P fleet →
      fleet.members[name]? = some member → P (fleet.stop name member))
    {fleet : Fleet} (before : P fleet) (entries : List (String × Member))
    (distinct : (entries.map Prod.fst).Nodup)
    (there : ∀ entry ∈ entries, fleet.members[entry.1]? = some entry.2) :
    P (fleet.stopAll entries) := by
  induction entries generalizing fleet with
  | nil => exact before
  | cons entry rest ih =>
    obtain ⟨fresh, distinct⟩ := List.nodup_cons.mp distinct
    refine ih (kept fleet entry.1 entry.2 before (there entry List.mem_cons_self)) distinct ?_
    intro other listed
    have apart : entry.1 ≠ other.1 := by
      intro same
      exact fresh (same ▸ List.mem_map_of_mem (f := Prod.fst) listed)
    rw [members_stop, if_neg apart]
    exact there other (List.mem_cons_of_mem _ listed)

theorem stopStale_keeps {P : Fleet → Prop}
    (kept : ∀ (fleet : Fleet) (name : String) (member : Member), P fleet →
      fleet.members[name]? = some member → P (fleet.stop name member))
    {fleet : Fleet} (before : P fleet) (required : Std.ExtTreeMap String Requirement) :
    P (fleet.stopStale required).fleet :=
  stopAll_keeps kept before _ (nodup_stale fleet required) fun _ listed => (mem_stale.mp listed).1

/-- Exactly the wanted collectors outlast the stops. -/
theorem members_stopStale {fleet : Fleet} {required : Std.ExtTreeMap String Requirement}
    {name : String} {member : Member} :
    (fleet.stopStale required).fleet.members[name]? = some member ↔
      fleet.members[name]? = some member ∧ member.Wanted required name := by
  change (fleet.stopAll (fleet.stale required)).members[name]? = some member ↔ _
  rw [members_stopAll]
  by_cases gone : name ∈ (fleet.stale required).map Prod.fst
  · simp only [gone, ↓reduceIte, reduceCtorEq, false_iff, not_and]
    obtain ⟨⟨_, other⟩, listed, rfl⟩ := List.mem_map.mp gone
    obtain ⟨there, unwanted⟩ := mem_stale.mp listed
    intro here
    rw [there] at here
    obtain rfl := Option.some.inj here
    exact unwanted
  · simp only [gone, ↓reduceIte]
    refine ⟨fun there => ⟨there, ?_⟩, And.left⟩
    by_contra unwanted
    exact gone (List.mem_map_of_mem (f := Prod.fst) (mem_stale.mpr ⟨there, unwanted⟩))

/-! Launching -/

/-- Whether a launcher answers a request with a collector. -/
def Launcher.accepts (launcher : Launcher) (spec : Collector.Spec) : Bool :=
  (launcher spec).isOk

/-- A launch either takes in what the launcher gave, or changes no collector at all. -/
theorem launch_cases (launcher : Launcher) (now : Moment) (pass : Pass)
    (wanted : String × Requirement) :
    (∃ launch, launcher (pass.request wanted) = .ok launch ∧
        pass.launch launcher now wanted = pass.accept (pass.request wanted) launch now) ∨
      ∃ error, launcher (pass.request wanted) = .error error ∧
        pass.launch launcher now wanted = pass.refuse (pass.request wanted) error := by
  simp only [Pass.launch]
  cases answer : launcher (pass.request wanted) with
  | ok launch => exact Or.inl ⟨launch, rfl, rfl⟩
  | error error => exact Or.inr ⟨error, rfl, rfl⟩

theorem mem_missing {fleet : Fleet} {required : Std.ExtTreeMap String Requirement}
    {entry : String × Requirement} :
    entry ∈ fleet.missing required ↔
      required[entry.1]? = some entry.2 ∧ entry.1 ∉ fleet.members := by
  obtain ⟨name, requirement⟩ := entry
  simp [missing, ← Std.ExtTreeMap.contains_iff_mem]

theorem nodup_missing (fleet : Fleet) (required : Std.ExtTreeMap String Requirement) :
    ((fleet.missing required).map Prod.fst).Nodup :=
  (List.filter_sublist.map Prod.fst).nodup (Maps.nodup_toList_keys required)

@[simp] theorem launchAll_nil (launcher : Launcher) (now : Moment) (pass : Pass) :
    pass.launchAll launcher now [] = pass := rfl

@[simp] theorem launchAll_cons (launcher : Launcher) (now : Moment) (pass : Pass)
    (first : String × Requirement) (rest : List (String × Requirement)) :
    pass.launchAll launcher now (first :: rest) =
      (pass.launch launcher now first).launchAll launcher now rest := rfl

/-- What every launch keeps holds after all of them. -/
theorem launchAll_keeps {launcher : Launcher} {now : Moment} {P : Pass → Prop}
    (wanted : List (String × Requirement))
    (kept : ∀ entry ∈ wanted, ∀ pass, P pass → P (pass.launch launcher now entry))
    {pass : Pass} (before : P pass) : P (pass.launchAll launcher now wanted) :=
  List.foldlRecOn wanted _ before fun pass held entry listed => kept entry listed pass held

theorem requests_launch (launcher : Launcher) (now : Moment) (pass : Pass)
    (wanted : String × Requirement) :
    (pass.launch launcher now wanted).requests = pass.requests ++ [pass.request wanted] := by
  rcases launch_cases launcher now pass wanted with ⟨_, _, same⟩ | ⟨_, _, same⟩ <;>
    rw [same] <;> rfl

/-- Each component that lacks a collector is asked for once, in the order of the list. -/
theorem requests_launchAll (launcher : Launcher) (now : Moment) (pass : Pass)
    (wanted : List (String × Requirement)) :
    (pass.launchAll launcher now wanted).requests.map (·.component) =
      pass.requests.map (·.component) ++ wanted.map Prod.fst := by
  induction wanted generalizing pass with
  | nil => simp
  | cons first rest ih =>
    rw [launchAll_cons, ih, requests_launch]
    simp [Pass.request, specFor]

/--
How a pass stands between two launches: `kept` is the fleet when nothing was launched yet, and
`required` is what its topology requires.
-/
structure Pass.Consistent (launcher : Launcher) (required : Std.ExtTreeMap String Requirement)
    (kept : Fleet) (pass : Pass) : Prop where
  started : pass.outcome.started = (pass.requests.filter launcher.accepts).map (·.component)
  failed : pass.outcome.failed =
    (pass.requests.filter fun spec => !launcher.accepts spec).map (·.component)
  asked : ∀ spec ∈ pass.requests,
    required[spec.component]? = some (Requirement.mk spec.function spec.address)
  members : ∀ name, name ∈ pass.fleet.members ↔
    name ∈ kept.members ∨ name ∈ pass.outcome.started
  keeps : ∀ (name : String) (member : Member), kept.members[name]? = some member →
    pass.fleet.members[name]? = some member
  wanted : ∀ (name : String) (member : Member), pass.fleet.members[name]? = some member →
    member.Wanted required name

theorem stopStale_consistent (launcher : Launcher) (fleet : Fleet)
    (required : Std.ExtTreeMap String Requirement) :
    (fleet.stopStale required).Consistent launcher required (fleet.stopStale required).fleet where
  started := rfl
  failed := rfl
  asked _ listed := (List.not_mem_nil listed).elim
  members name := by
    change _ ↔ _ ∨ name ∈ []
    simp
  keeps _ _ there := there
  wanted _ _ there := (members_stopStale.mp there).2

theorem members_takeIn (fleet : Fleet) (spec : Collector.Spec) (launch : Launch) (now : Moment)
    (name : String) :
    (fleet.takeIn spec launch now).members[name]? =
      if spec.component = name then
        some ⟨fleet.launches, Collector.start { spec with port := launch.port } launch.settings now,
          launch.drains⟩
      else fleet.members[name]? := by
  simp only [takeIn, Std.ExtTreeMap.getElem?_insert, Std.LawfulEqCmp.compare_eq_iff_eq]

/-- A collector that was taken in stands beside those that were there. -/
theorem members_accept {pass : Pass} {spec : Collector.Spec} {launch : Launch} {now : Moment}
    {name : String} {member : Member}
    (there : (pass.accept spec launch now).fleet.members[name]? = some member) :
    (name = spec.component ∧ member.serial = pass.fleet.launches ∧
        member.spec = { spec with port := launch.port }) ∨
      pass.fleet.members[name]? = some member := by
  change (pass.fleet.takeIn spec launch now).members[name]? = some member at there
  rw [members_takeIn] at there
  split at there
  · rename_i here
    obtain rfl := Option.some.inj there
    exact Or.inl ⟨here.symm, rfl, rfl⟩
  · exact Or.inr there

theorem mem_members_accept {pass : Pass} {spec : Collector.Spec} {launch : Launch} {now : Moment}
    {name : String} :
    name ∈ (pass.accept spec launch now).fleet.members ↔
      name = spec.component ∨ name ∈ pass.fleet.members := by
  simp only [Pass.accept, takeIn, Std.ExtTreeMap.mem_insert, Std.LawfulEqCmp.compare_eq_iff_eq,
    eq_comm (a := name)]

theorem accept_consistent {launcher : Launcher} {required : Std.ExtTreeMap String Requirement}
    {kept : Fleet} {pass : Pass} (consistent : pass.Consistent launcher required kept)
    {spec : Collector.Spec} {launch : Launch} (accepted : launcher spec = .ok launch) (now : Moment)
    (asked : required[spec.component]? = some (Requirement.mk spec.function spec.address))
    (lacking : spec.component ∉ kept.members) :
    (pass.accept spec launch now).Consistent launcher required kept where
  started := by
    simp [Pass.accept, consistent.started, Launcher.accepts, accepted, Except.isOk, Except.toBool]
  failed := by
    simp [Pass.accept, consistent.failed, Launcher.accepts, accepted, Except.isOk, Except.toBool]
  asked other listed := by
    rcases List.mem_append.mp listed with before | now
    · exact consistent.asked other before
    · rw [List.mem_singleton.mp now]
      exact asked
  members name := by
    change _ ↔ _ ∨ name ∈ pass.outcome.started ++ [spec.component]
    rw [mem_members_accept, consistent.members name, List.mem_append, List.mem_singleton, or_comm,
      or_assoc]
  keeps name member there := by
    have apart : ¬ spec.component = name := by
      rintro rfl
      exact lacking (Maps.mem_iff_exists.mpr ⟨member, there⟩)
    change (pass.fleet.takeIn spec launch now).members[name]? = some member
    rw [members_takeIn, if_neg apart]
    exact consistent.keeps name member there
  wanted name member there := by
    change (pass.fleet.takeIn spec launch now).members[name]? = some member at there
    rw [members_takeIn] at there
    split at there
    · rename_i here
      obtain rfl := Option.some.inj there
      subst here
      exact ⟨_, asked, (meets_iff _ _).mpr ⟨rfl, rfl⟩⟩
    · exact consistent.wanted name member there

theorem refuse_consistent {launcher : Launcher} {required : Std.ExtTreeMap String Requirement}
    {kept : Fleet} {pass : Pass} (consistent : pass.Consistent launcher required kept)
    {spec : Collector.Spec} {error : String} (refused : launcher spec = .error error)
    (asked : required[spec.component]? = some (Requirement.mk spec.function spec.address)) :
    (pass.refuse spec error).Consistent launcher required kept where
  started := by
    simp [Pass.refuse, consistent.started, Launcher.accepts, refused, Except.isOk, Except.toBool]
  failed := by
    simp [Pass.refuse, consistent.failed, Launcher.accepts, refused, Except.isOk, Except.toBool]
  asked other listed := by
    rcases List.mem_append.mp listed with before | now
    · exact consistent.asked other before
    · rw [List.mem_singleton.mp now]
      exact asked
  members := consistent.members
  keeps := consistent.keeps
  wanted := consistent.wanted

theorem launch_consistent {launcher : Launcher} {required : Std.ExtTreeMap String Requirement}
    {kept : Fleet} {pass : Pass} (consistent : pass.Consistent launcher required kept)
    (now : Moment) {entry : String × Requirement} (listed : entry ∈ kept.missing required) :
    (pass.launch launcher now entry).Consistent launcher required kept := by
  have ⟨asked, lacking⟩ := mem_missing.mp listed
  rcases launch_cases launcher now pass entry with ⟨launch, accepted, same⟩ | ⟨error, refused, same⟩
  · rw [same]
    exact accept_consistent consistent accepted now asked lacking
  · rw [same]
    exact refuse_consistent consistent refused asked

end CoreWatch.Fleet
