import CoreWatch.Proofs.Fleet.Run
import Mathlib.Data.List.Range

set_option autoImplicit false

/-!
Every collector that was ever launched is accounted for: it either lives in the fleet under the name
of its component, or it was stopped once. The meters of the fleet count exactly this.
-/

namespace CoreWatch.Fleet

/-! What launchers answer -/

/-- What a launcher was asked for, with whether it gives a collector. -/
def Launcher.answers (launcher : Launcher) (requests : List Collector.Spec) :
    List (Collector.Spec × Bool) :=
  requests.map fun spec => (spec, launcher.accepts spec)

/-- The answers that a command gets. -/
def heard (fleet : Fleet) : Command → List (Collector.Spec × Bool)
  | .reconcile launcher write now topology =>
    launcher.answers (fleet.reconcile launcher write now topology).requests
  | _ => []

/-- The answers that a run gets. -/
def answers (fleet : Fleet) : List Command → List (Collector.Spec × Bool)
  | [] => []
  | command :: rest => fleet.heard command ++ (fleet.perform command).answers rest

/-- What collectors were launched for, in the order in which they were. -/
def launched (answers : List (Collector.Spec × Bool)) : List Collector.Spec :=
  (answers.filter (·.2)).map (·.1)

/-- How many launches failed. -/
def refusals (answers : List (Collector.Spec × Bool)) : Nat :=
  (answers.filter (!·.2)).length

@[simp] theorem launched_append (before after : List (Collector.Spec × Bool)) :
    launched (before ++ after) = launched before ++ launched after := by
  rw [launched, List.filter_append, List.map_append, launched, launched]

@[simp] theorem refusals_append (before after : List (Collector.Spec × Bool)) :
    refusals (before ++ after) = refusals before + refusals after := by
  rw [refusals, List.filter_append, List.length_append, refusals, refusals]

@[simp] theorem launched_yes (spec : Collector.Spec) : launched [(spec, true)] = [spec] := rfl

@[simp] theorem launched_no (spec : Collector.Spec) : launched [(spec, false)] = [] := rfl

@[simp] theorem refusals_yes (spec : Collector.Spec) : refusals [(spec, true)] = 0 := rfl

@[simp] theorem refusals_no (spec : Collector.Spec) : refusals [(spec, false)] = 1 := rfl

/-! The ledger -/

/-- A collector that was launched for a component of that name. -/
def Member.Launched (member : Member) (launched : List Collector.Spec) (name : String) : Prop :=
  ∃ spec, launched[member.serial]? = some spec ∧ spec.component = name ∧
    member.spec = { spec with port := member.spec.port }

/-- All that was launched is in the fleet or among the stopped, and the meters have counted it. -/
structure Accounted (answers : List (Collector.Spec × Bool)) (fleet : Fleet) : Prop where
  launches : fleet.launches = (launched answers).length
  home : ∀ {name : String} {member : Member}, fleet.members[name]? = some member →
    member.Launched (launched answers) name
  /-- No collector is lost. -/
  kept : ∀ serial < fleet.launches, serial ∉ fleet.stopped →
    ∃ (name : String) (member : Member), fleet.members[name]? = some member ∧
      member.serial = serial
  starts : fleet.tally.count .collectorStarts = fleet.launches
  stops : fleet.tally.count .collectorStops = fleet.stopped.length
  failures : fleet.tally.count .collectorStartFailures = refusals answers

theorem empty_accounted (settings : Settings) : (empty settings).Accounted [] where
  launches := rfl
  home there := by simp [empty] at there
  kept serial launched := absurd launched (Nat.not_lt_zero serial)
  starts := rfl
  stops := rfl
  failures := rfl

/-- Only the collectors and what is counted of them matter. -/
theorem Accounted.congr {answers : List (Collector.Spec × Bool)} {fleet other : Fleet}
    (accounted : fleet.Accounted answers) (members : other.members = fleet.members)
    (launches : other.launches = fleet.launches) (stopped : other.stopped = fleet.stopped)
    (starts : other.tally.count .collectorStarts = fleet.tally.count .collectorStarts)
    (stops : other.tally.count .collectorStops = fleet.tally.count .collectorStops)
    (failures : other.tally.count .collectorStartFailures =
      fleet.tally.count .collectorStartFailures) : other.Accounted answers where
  launches := launches.trans accounted.launches
  home there := accounted.home (members ▸ there)
  kept := by
    rw [members, launches, stopped]
    exact accounted.kept
  starts := by rw [starts, accounted.starts, launches]
  stops := by rw [stops, accounted.stops, stopped]
  failures := failures.trans accounted.failures

theorem stop_accounted {answers : List (Collector.Spec × Bool)} {fleet : Fleet}
    (accounted : fleet.Accounted answers) {name : String} {member : Member}
    (there : fleet.members[name]? = some member) : (fleet.stop name member).Accounted answers where
  launches := accounted.launches
  home found := by
    rw [members_stop] at found
    split at found
    · cases found
    · exact accounted.home found
  kept serial old live := by
    simp only [stop, List.mem_append, List.mem_singleton, not_or] at live
    obtain ⟨other, rest, found, same⟩ := accounted.kept serial old live.1
    refine ⟨other, rest, ?_, same⟩
    have elsewhere : name ≠ other := by
      rintro rfl
      rw [there, Option.some.injEq] at found
      exact live.2 (by rw [found, same])
    rw [members_stop, if_neg elsewhere]
    exact found
  starts := accounted.starts
  stops := by
    change fleet.tally.count .collectorStops + 1 = (fleet.stopped ++ [member.serial]).length
    rw [accounted.stops, List.length_append, List.length_singleton]
  failures := accounted.failures

/-- A collector that was launched for a component without one is put down as launched. -/
theorem takeIn_accounted {answers : List (Collector.Spec × Bool)} {fleet : Fleet}
    (accounted : fleet.Accounted answers) {spec : Collector.Spec}
    (lacking : spec.component ∉ fleet.members) (launch : Launch) (now : Moment) :
    (fleet.takeIn spec launch now).Accounted (answers ++ [(spec, true)]) where
  launches := by
    change fleet.launches + 1 = _
    rw [launched_append, List.length_append, accounted.launches]
    rfl
  home {name member} found := by
    rw [launched_append, launched_yes]
    rw [members_takeIn] at found
    split at found
    · rename_i here
      obtain rfl := Option.some.inj found
      refine ⟨spec, ?_, here, rfl⟩
      change (launched answers ++ [spec])[fleet.launches]? = some spec
      rw [accounted.launches, List.getElem?_concat_length]
    · obtain ⟨old, listed, rest⟩ := accounted.home found
      refine ⟨old, ?_, rest⟩
      rw [List.getElem?_append_left (List.getElem?_eq_some_iff.mp listed).1]
      exact listed
  kept serial old live := by
    change serial < fleet.launches + 1 at old
    by_cases new : serial = fleet.launches
    · obtain rfl := new
      refine ⟨spec.component, _, (members_takeIn ..).trans (if_pos rfl), rfl⟩
    · obtain ⟨name, member, found, same⟩ := accounted.kept serial (by omega) live
      refine ⟨name, member, ?_, same⟩
      -- Had there been one under this name, it would be lost now.
      have elsewhere : spec.component ≠ name := by
        rintro rfl
        exact lacking (Maps.mem_iff_exists.mpr ⟨member, found⟩)
      rw [members_takeIn, if_neg elsewhere]
      exact found
  starts := by
    change fleet.tally.count .collectorStarts + 1 = fleet.launches + 1
    rw [accounted.starts]
  stops := accounted.stops
  failures := by
    rw [refusals_append, refusals_yes]
    exact accounted.failures

/-- A launch that failed is put down as that, and nothing else changes. -/
theorem refuse_accounted {answers : List (Collector.Spec × Bool)} {pass : Pass}
    (accounted : pass.fleet.Accounted answers) (spec : Collector.Spec) (error : String) :
    (pass.refuse spec error).fleet.Accounted (answers ++ [(spec, false)]) where
  launches := by
    rw [launched_append, launched_no, List.append_nil]
    exact accounted.launches
  home found := by
    rw [launched_append, launched_no, List.append_nil]
    exact accounted.home found
  kept := accounted.kept
  starts := accounted.starts
  stops := accounted.stops
  failures := by
    change pass.fleet.tally.count .collectorStartFailures + 1 = _
    rw [refusals_append, refusals_no, accounted.failures]

theorem launch_accounted {launcher : Launcher} (now : Moment)
    {before : List (Collector.Spec × Bool)} {pass : Pass}
    (accounted : pass.fleet.Accounted (before ++ launcher.answers pass.requests))
    {wanted : String × Requirement} (lacking : wanted.1 ∉ pass.fleet.members) :
    (pass.launch launcher now wanted).fleet.Accounted
      (before ++ launcher.answers (pass.launch launcher now wanted).requests) := by
  rw [requests_launch, Launcher.answers, List.map_append, ← List.append_assoc, List.map_singleton]
  rcases launch_cases launcher now pass wanted with
    ⟨launch, accepted, same⟩ | ⟨error, refused, same⟩
  · have yes : launcher.accepts (pass.request wanted) = true := by
      rw [Launcher.accepts, accepted]
      rfl
    rw [same, yes]
    exact takeIn_accounted accounted lacking launch now
  · have no : launcher.accepts (pass.request wanted) = false := by
      rw [Launcher.accepts, refused]
      rfl
    rw [same, no]
    exact refuse_accounted accounted _ error

theorem mem_launch {launcher : Launcher} {now : Moment} {pass : Pass}
    {wanted : String × Requirement} {name : String}
    (there : name ∈ (pass.launch launcher now wanted).fleet.members) :
    name = wanted.1 ∨ name ∈ pass.fleet.members := by
  rcases launch_cases launcher now pass wanted with ⟨launch, _, same⟩ | ⟨error, _, same⟩
  · rw [same] at there
    exact mem_members_accept.mp there
  · rw [same] at there
    exact Or.inr there

theorem launchAll_accounted {launcher : Launcher} (now : Moment)
    {before : List (Collector.Spec × Bool)} {pass : Pass}
    (accounted : pass.fleet.Accounted (before ++ launcher.answers pass.requests))
    (wanted : List (String × Requirement)) (distinct : (wanted.map Prod.fst).Nodup)
    (lacking : ∀ entry ∈ wanted, entry.1 ∉ pass.fleet.members) :
    (pass.launchAll launcher now wanted).fleet.Accounted
      (before ++ launcher.answers (pass.launchAll launcher now wanted).requests) := by
  induction wanted generalizing pass with
  | nil => exact accounted
  | cons first rest ih =>
    obtain ⟨fresh, distinct⟩ := List.nodup_cons.mp distinct
    have next := launch_accounted now accounted (lacking first List.mem_cons_self)
    -- A launch fills no place but its own, so the components that follow still lack a collector.
    refine ih next distinct fun entry listed there => ?_
    rcases mem_launch there with same | old
    · exact fresh (same ▸ List.mem_map_of_mem (f := Prod.fst) listed)
    · exact lacking entry (List.mem_cons_of_mem _ listed) old

theorem turnOver_accounted {before : List (Collector.Spec × Bool)} {fleet : Fleet}
    (accounted : fleet.Accounted before) (launcher : Launcher) (now : Moment)
    (topology : Topology) :
    (fleet.turnOver launcher now topology).fleet.Accounted
      (before ++ launcher.answers (fleet.turnOver launcher now topology).requests) := by
  have begun : (fleet.begin topology).Accounted before := accounted.congr rfl rfl rfl rfl rfl rfl
  have stopped : ((fleet.begin topology).stopStale (required topology)).fleet.Accounted before :=
    stopStale_keeps (fun _ _ _ held there => stop_accounted held there) begun _
  refine launchAll_accounted now ?_ _ (nodup_missing _ _)
    fun _ listed => (mem_missing.mp listed).2
  exact (List.append_nil before).symm ▸ stopped

/-! Runs -/

/-- A pass ends by counting the collectors. -/
theorem tally_reconcile (fleet : Fleet) (launcher : Launcher) (write : Scrape.Document → Bool)
    (now : Moment) (topology : Topology) :
    (fleet.reconcile launcher write now topology).fleet.tally =
      (fleet.turnOver launcher now topology).fleet.tally.set .collectorsActive
        (fleet.turnOver launcher now topology).fleet.size := by
  simp only [reconcile]
  split <;> rfl

theorem shutdown_accounted {answers : List (Collector.Spec × Bool)} {fleet : Fleet}
    (accounted : fleet.Accounted answers) : fleet.shutdown.1.Accounted answers where
  launches := accounted.launches
  home there := by simp [shutdown] at there
  kept serial old live := by
    simp only [shutdown, List.mem_append, not_or] at live
    obtain ⟨name, member, found, same⟩ := accounted.kept serial old live.1
    exact (live.2 (Maps.mem_map_values.mpr ⟨name, member, found, same⟩)).elim
  starts := accounted.starts
  stops := by
    change fleet.tally.count .collectorStops + fleet.members.values.length =
      (fleet.stopped ++ fleet.members.values.map (·.serial)).length
    rw [accounted.stops, List.length_append, List.length_map]
  failures := accounted.failures

@[simp] theorem tally_fetch (fleet : Fleet) (component : String) (now : Moment)
    (exchange : Collector.Exchange) : (fleet.fetch component now exchange).tally = fleet.tally := by
  simp only [fetch]
  split <;> rfl

/-- A fetch takes no collector out of the fleet. -/
theorem fetch_keeps {fleet : Fleet} {name : String} {member : Member}
    (there : fleet.members[name]? = some member) (component : String) (now : Moment)
    (exchange : Collector.Exchange) :
    ∃ same : Member, (fleet.fetch component now exchange).members[name]? = some same ∧
      same.serial = member.serial := by
  cases found : fleet.members[component]? with
  | none =>
    simp only [fetch, member?, found]
    exact ⟨member, there, rfl⟩
  | some watched =>
    simp only [fetch, member?, found, Std.ExtTreeMap.getElem?_insert,
      Std.LawfulEqCmp.compare_eq_iff_eq]
    by_cases here : component = name
    · obtain rfl := here
      obtain rfl := Option.some.inj (found.symm.trans there)
      exact ⟨_, if_pos rfl, rfl⟩
    · exact ⟨member, (if_neg here).trans there, rfl⟩

@[simp] theorem size_fetch (fleet : Fleet) (component : String) (now : Moment)
    (exchange : Collector.Exchange) : (fleet.fetch component now exchange).size = fleet.size := by
  simp only [fetch]
  split
  · rfl
  · rename_i member found
    have listed : component ∈ fleet.members := Maps.mem_iff_exists.mpr ⟨member, found⟩
    rw [size, Std.ExtTreeMap.size_insert, if_pos (Std.ExtTreeMap.contains_iff_mem.mpr listed), size]

theorem fetch_accounted {answers : List (Collector.Spec × Bool)} {fleet : Fleet}
    (accounted : fleet.Accounted answers) (component : String) (now : Moment)
    (exchange : Collector.Exchange) :
    (fleet.fetch component now exchange).Accounted answers where
  launches := (launches_fetch ..).trans accounted.launches
  home there := by
    obtain ⟨member, old, serial, spec⟩ := fetch_carries there
    obtain ⟨asked, listed, rest⟩ := accounted.home old
    exact ⟨asked, serial ▸ listed, spec ▸ rest⟩
  kept serial old live := by
    rw [launches_fetch] at old
    rw [stopped_fetch] at live
    obtain ⟨name, member, found, same⟩ := accounted.kept serial old live
    obtain ⟨later, there, kept⟩ := fetch_keeps found component now exchange
    exact ⟨name, later, there, kept.trans same⟩
  starts := by rw [tally_fetch, launches_fetch, accounted.starts]
  stops := by rw [tally_fetch, stopped_fetch, accounted.stops]
  failures := by rw [tally_fetch, accounted.failures]

theorem perform_accounted {before : List (Collector.Spec × Bool)} {fleet : Fleet}
    (accounted : fleet.Accounted before) (command : Command) :
    (fleet.perform command).Accounted (before ++ fleet.heard command) := by
  cases command with
  | reconcile launcher write now topology =>
    have turned := turnOver_accounted accounted launcher now topology
    rw [heard, requests_reconcile]
    refine turned.congr (members_reconcile ..) (launches_reconcile ..) (stopped_reconcile ..)
      ?_ ?_ ?_ <;> (rw [perform, tally_reconcile]; rfl)
  | shutdown => exact (List.append_nil before).symm ▸ shutdown_accounted accounted
  | fetch component now exchange =>
    exact (List.append_nil before).symm ▸ fetch_accounted accounted component now exchange
  | cancel =>
    exact (List.append_nil before).symm ▸ accounted.congr rfl rfl rfl rfl rfl rfl

theorem run_accounted {before : List (Collector.Spec × Bool)} {fleet : Fleet}
    (accounted : fleet.Accounted before) (commands : List Command) :
    (fleet.run commands).Accounted (before ++ fleet.answers commands) := by
  induction commands generalizing before fleet with
  | nil => exact (List.append_nil before).symm ▸ accounted
  | cons command rest ih =>
    rw [answers, ← List.append_assoc]
    exact ih (perform_accounted accounted command)

/-- The gauge shows the collectors that live after each command. -/
theorem perform_active {fleet : Fleet}
    (active : fleet.tally.count .collectorsActive = fleet.size) (command : Command) :
    (fleet.perform command).tally.count .collectorsActive = (fleet.perform command).size := by
  cases command with
  | reconcile launcher write now topology =>
    rw [perform, tally_reconcile, size, size, members_reconcile]
    rfl
  | shutdown => rfl
  | fetch component now exchange =>
    rw [perform, tally_fetch, size_fetch]
    exact active
  | cancel => exact active

theorem run_active {fleet : Fleet} (active : fleet.tally.count .collectorsActive = fleet.size)
    (commands : List Command) :
    (fleet.run commands).tally.count .collectorsActive = (fleet.run commands).size :=
  List.foldlRecOn (motive := fun fleet : Fleet => fleet.tally.count .collectorsActive = fleet.size)
    commands _ active fun _ held command _ => perform_active held command

/-! The balance -/

/-- The collectors of the fleet and the stopped ones are all that were launched, each once. -/
theorem Accounted.serials {answers : List (Collector.Spec × Bool)} {fleet : Fleet}
    (accounted : fleet.Accounted answers) (numbered : fleet.Numbered) :
    (fleet.members.values.map (·.serial) ++ fleet.stopped).Perm (List.range fleet.launches) := by
  have distinct : (fleet.members.values.map (·.serial) ++ fleet.stopped).Nodup := by
    refine (Maps.nodup_map_values.mpr numbered.apart).append numbered.once ?_
    intro serial listed gone
    obtain ⟨name, member, there, rfl⟩ := Maps.mem_map_values.mp listed
    exact numbered.live there gone
  refine (List.perm_ext_iff_of_nodup distinct List.nodup_range).mpr fun serial => ?_
  rw [List.mem_append, List.mem_range, Maps.mem_map_values]
  constructor
  · rintro (⟨name, member, there, rfl⟩ | gone)
    · exact numbered.below there
    · exact numbered.past serial gone
  · intro old
    by_cases gone : serial ∈ fleet.stopped
    · exact Or.inr gone
    · exact Or.inl (accounted.kept serial old gone)

theorem Accounted.balance {answers : List (Collector.Spec × Bool)} {fleet : Fleet}
    (accounted : fleet.Accounted answers) (numbered : fleet.Numbered) :
    fleet.launches = fleet.stopped.length + fleet.size := by
  have counted := (accounted.serials numbered).length_eq
  rw [List.length_append, List.length_map, List.length_range, Maps.values_eq_map_toList,
    List.length_map, Std.ExtTreeMap.length_toList] at counted
  rw [size]
  omega

/-- A collector that was launched and not stopped is the one of its component. -/
theorem Accounted.lives {answers : List (Collector.Spec × Bool)} {fleet : Fleet}
    (accounted : fleet.Accounted answers) {serial : Nat} {spec : Collector.Spec}
    (listed : (launched answers)[serial]? = some spec) (unstopped : serial ∉ fleet.stopped) :
    ∃ member : Member, fleet.members[spec.component]? = some member ∧
      member.serial = serial ∧ member.spec = { spec with port := member.spec.port } := by
  have old : serial < fleet.launches :=
    accounted.launches ▸ (List.getElem?_eq_some_iff.mp listed).1
  obtain ⟨name, member, there, rfl⟩ := accounted.kept serial old unstopped
  obtain ⟨same, listed', rfl, rest⟩ := accounted.home there
  rw [listed, Option.some.injEq] at listed'
  exact ⟨member, listed' ▸ there, rfl, listed' ▸ rest⟩

/-- There is nothing left for a second shutdown. -/
theorem shutdown_shutdown (fleet : Fleet) : fleet.shutdown.1.shutdown = (fleet.shutdown.1, []) := by
  have none : (∅ : Std.ExtTreeMap String Member).values = [] := rfl
  have settled (tally : Tally) :
      ((tally.set .collectorsActive 0).add .collectorStops 0).set .collectorsActive 0 =
        tally.set .collectorsActive 0 := by
    rw [Tally.set, Tally.set, Tally.mk.injEq]
    funext meter
    by_cases here : meter = .collectorsActive
    · rw [if_pos here, if_pos here]
    · rw [if_neg here, Tally.count_add, Nat.add_zero, ite_self]
  simp only [shutdown, none, List.map_nil, List.append_nil, List.length_nil, settled]
  rfl

/--
At every moment between commands, each collector that was ever launched either stands in the fleet
under the name of its component and was not stopped, or is out of it and was stopped once; nothing
else is in the fleet or was stopped, and no component has two collectors that live. A shutdown
empties the fleet and leaves a second one nothing to stop. The meters count the collectors that were
launched, stopped and refused, and those that live.
-/
theorem launches_accounted (settings : Settings) (commands : List Command) :
    let fleet := (empty settings).run commands
    let answers := (empty settings).answers commands
    let launched := launched answers
    (∀ (serial : Nat) (spec : Collector.Spec), launched[serial]? = some spec →
        ((∃ member : Member, fleet.members[spec.component]? = some member ∧
              member.serial = serial ∧ member.spec = { spec with port := member.spec.port }) ∧
            serial ∉ fleet.stopped) ∨
          ((∀ (name : String) (member : Member), fleet.members[name]? = some member →
              member.serial ≠ serial) ∧
            fleet.stopped.count serial = 1)) ∧
      (∀ (name : String) (member : Member), fleet.members[name]? = some member →
        member.Launched launched name) ∧
      (∀ serial ∈ fleet.stopped, serial < launched.length) ∧
      (∀ (serial other : Nat) (spec twin : Collector.Spec), launched[serial]? = some spec →
        launched[other]? = some twin → spec.component = twin.component →
          serial ∉ fleet.stopped → other ∉ fleet.stopped → serial = other) ∧
      (fleet.shutdown.1.members = ∅ ∧ fleet.shutdown.1.shutdown = (fleet.shutdown.1, [])) ∧
      fleet.tally.count .collectorStarts = launched.length ∧
      fleet.tally.count .collectorStops = fleet.stopped.length ∧
      fleet.tally.count .collectorStarts = fleet.tally.count .collectorStops + fleet.size ∧
      fleet.tally.count .collectorStartFailures = refusals answers ∧
      fleet.tally.count .collectorsActive = fleet.size := by
  intro fleet answers launched
  have accounted : fleet.Accounted answers := run_accounted (empty_accounted settings) commands
  have numbered : fleet.Numbered := run_numbered (empty_numbered settings) commands
  refine ⟨?_, fun _ _ => accounted.home, ?_, ?_, ⟨rfl, ?_⟩, ?_, accounted.stops, ?_,
    accounted.failures, run_active rfl commands⟩
  · intro serial spec listed
    by_cases gone : serial ∈ fleet.stopped
    · refine Or.inr ⟨?_, List.count_eq_one_of_mem numbered.once gone⟩
      rintro name member there rfl
      exact numbered.live there gone
    · exact Or.inl ⟨accounted.lives listed gone, gone⟩
  · intro serial gone
    exact accounted.launches ▸ numbered.past serial gone
  · intro serial other spec twin listed listed' same unstopped unstopped'
    obtain ⟨member, there, first, _⟩ := accounted.lives listed unstopped
    obtain ⟨again, there', second, _⟩ := accounted.lives listed' unstopped'
    rw [same, there', Option.some.injEq] at there
    rw [← first, ← second, there]
  · exact shutdown_shutdown fleet
  · rw [accounted.starts, accounted.launches]
  · rw [accounted.starts, accounted.stops, accounted.balance numbered]

end CoreWatch.Fleet
