import CoreWatch.Proofs.Fleet.Pass

set_option autoImplicit false

/-!
Runs of a fleet: passes, fetches and the end of the monitor, one after another. In every run serial
numbers tell collectors apart, and no collector that is stopped is still in the fleet.
-/

namespace CoreWatch.Fleet

/-- What is done to a fleet. -/
inductive Command
  | reconcile (launcher : Launcher) (write : Scrape.Document → Bool) (now : Moment)
      (topology : Topology)
  | shutdown
  | fetch (component : String) (now : Moment) (exchange : Collector.Exchange)
  | cancel

def perform (fleet : Fleet) : Command → Fleet
  | .reconcile launcher write now topology => (fleet.reconcile launcher write now topology).fleet
  | .shutdown => fleet.shutdown.1
  | .fetch component now exchange => fleet.fetch component now exchange
  | .cancel => fleet.cancel

def run (fleet : Fleet) (commands : List Command) : Fleet :=
  commands.foldl perform fleet

/-- A fleet that some run ends with. -/
def Reachable (fleet : Fleet) : Prop :=
  ∃ settings commands, fleet = (empty settings).run commands

@[simp] theorem members_reconcile (fleet : Fleet) (launcher : Launcher)
    (write : Scrape.Document → Bool) (now : Moment) (topology : Topology) :
    (fleet.reconcile launcher write now topology).fleet.members =
      (fleet.turnOver launcher now topology).fleet.members := by
  simp only [reconcile]
  split <;> rfl

@[simp] theorem launches_reconcile (fleet : Fleet) (launcher : Launcher)
    (write : Scrape.Document → Bool) (now : Moment) (topology : Topology) :
    (fleet.reconcile launcher write now topology).fleet.launches =
      (fleet.turnOver launcher now topology).fleet.launches := by
  simp only [reconcile]
  split <;> rfl

@[simp] theorem stopped_reconcile (fleet : Fleet) (launcher : Launcher)
    (write : Scrape.Document → Bool) (now : Moment) (topology : Topology) :
    (fleet.reconcile launcher write now topology).fleet.stopped =
      (fleet.turnOver launcher now topology).fleet.stopped := by
  simp only [reconcile]
  split <;> rfl

@[simp] theorem outcome_reconcile (fleet : Fleet) (launcher : Launcher)
    (write : Scrape.Document → Bool) (now : Moment) (topology : Topology) :
    (fleet.reconcile launcher write now topology).outcome =
      (fleet.turnOver launcher now topology).outcome := by
  simp only [reconcile]
  split <;> rfl

@[simp] theorem requests_reconcile (fleet : Fleet) (launcher : Launcher)
    (write : Scrape.Document → Bool) (now : Moment) (topology : Topology) :
    (fleet.reconcile launcher write now topology).requests =
      (fleet.turnOver launcher now topology).requests := by
  simp only [reconcile]
  split <;> rfl

/-- A collector that was there before, with the same number and watching the same. -/
def Carried (before : Fleet) (name : String) (member : Member) : Prop :=
  ∃ same : Member, before.members[name]? = some same ∧ same.serial = member.serial ∧
    same.spec = member.spec

theorem spec_fetch (collector : Collector) (now : Moment) (exchange : Collector.Exchange) :
    (collector.fetch now exchange).spec = collector.spec := by
  simp only [Collector.fetch]
  split <;> rfl

theorem fetch_carries {fleet : Fleet} {component name : String} {now : Moment}
    {exchange : Collector.Exchange} {member : Member}
    (there : (fleet.fetch component now exchange).members[name]? = some member) :
    Carried fleet name member := by
  cases found : fleet.members[component]? with
  | none =>
    simp only [fetch, member?, found] at there
    exact ⟨member, there, rfl, rfl⟩
  | some watched =>
    simp only [fetch, member?, found, Std.ExtTreeMap.getElem?_insert,
      Std.LawfulEqCmp.compare_eq_iff_eq] at there
    split at there
    · rename_i here
      obtain rfl := Option.some.inj there
      exact ⟨watched, here ▸ found, rfl, (spec_fetch watched.collector now exchange).symm⟩
    · exact ⟨member, there, rfl, rfl⟩

@[simp] theorem launches_fetch (fleet : Fleet) (component : String) (now : Moment)
    (exchange : Collector.Exchange) :
    (fleet.fetch component now exchange).launches = fleet.launches := by
  simp only [fetch]
  split <;> rfl

@[simp] theorem stopped_fetch (fleet : Fleet) (component : String) (now : Moment)
    (exchange : Collector.Exchange) :
    (fleet.fetch component now exchange).stopped = fleet.stopped := by
  simp only [fetch]
  split <;> rfl

/-- Serial numbers tell collectors apart, and those of stopped ones are gone for good. -/
structure Numbered (fleet : Fleet) : Prop where
  named : ∀ {name : String} {member : Member}, fleet.members[name]? = some member →
    member.spec.component = name
  below : ∀ {name : String} {member : Member}, fleet.members[name]? = some member →
    member.serial < fleet.launches
  apart : ∀ {left right : String} {first second : Member}, fleet.members[left]? = some first →
    fleet.members[right]? = some second → first.serial = second.serial → left = right
  live : ∀ {name : String} {member : Member}, fleet.members[name]? = some member →
    member.serial ∉ fleet.stopped
  past : ∀ serial ∈ fleet.stopped, serial < fleet.launches
  once : fleet.stopped.Nodup

theorem empty_numbered (settings : Settings) : (empty settings).Numbered where
  named there := by simp [empty] at there
  below there := by simp [empty] at there
  apart there := by simp [empty] at there
  live there := by simp [empty] at there
  past serial there := by simp [empty] at there
  once := List.nodup_nil

/-- Only the collectors and the counts of launches and stops matter for the numbers. -/
theorem Numbered.congr {fleet other : Fleet} (numbered : fleet.Numbered)
    (members : other.members = fleet.members) (launches : other.launches = fleet.launches)
    (stopped : other.stopped = fleet.stopped) : other.Numbered where
  named there := numbered.named (members ▸ there)
  below there := launches ▸ numbered.below (members ▸ there)
  apart left right := numbered.apart (members ▸ left) (members ▸ right)
  live there := stopped ▸ numbered.live (members ▸ there)
  past := stopped ▸ launches ▸ numbered.past
  once := stopped ▸ numbered.once

theorem stop_numbered {fleet : Fleet} (numbered : fleet.Numbered) {name : String} {member : Member}
    (there : fleet.members[name]? = some member) : (fleet.stop name member).Numbered := by
  have left {other : String} {rest : Member}
      (found : (fleet.stop name member).members[other]? = some rest) :
      fleet.members[other]? = some rest ∧ name ≠ other := by
    rw [members_stop] at found
    split at found
    · cases found
    · exact ⟨found, ‹_›⟩
  refine ⟨?_, ?_, ?_, ?_, ?_, ?_⟩
  · exact fun found => numbered.named (left found).1
  · exact fun found => numbered.below (left found).1
  · exact fun first second => numbered.apart (left first).1 (left second).1
  · intro other rest found
    change rest.serial ∉ fleet.stopped ++ [member.serial]
    simp only [List.mem_append, List.mem_singleton, not_or]
    refine ⟨numbered.live (left found).1, fun same => (left found).2 ?_⟩
    exact numbered.apart there (left found).1 same.symm
  · intro serial gone
    rcases List.mem_append.mp gone with before | now
    · exact numbered.past serial before
    · rw [List.mem_singleton.mp now]
      exact numbered.below there
  · exact numbered.once.append (List.nodup_singleton _) (by simpa using numbered.live there)

theorem stopStale_numbered {fleet : Fleet} (numbered : fleet.Numbered)
    (required : Std.ExtTreeMap String Requirement) : (fleet.stopStale required).fleet.Numbered :=
  stopStale_keeps (fun _ _ _ held there => stop_numbered held there) numbered required

theorem takeIn_numbered {fleet : Fleet} (numbered : fleet.Numbered) (spec : Collector.Spec)
    (launch : Launch) (now : Moment) : (fleet.takeIn spec launch now).Numbered := by
  have cases {name : String} {member : Member}
      (found : (fleet.takeIn spec launch now).members[name]? = some member) :
      (member.spec.component = name ∧ member.serial = fleet.launches ∧ name = spec.component) ∨
        fleet.members[name]? = some member := by
    rw [members_takeIn] at found
    split at found
    · rename_i here
      obtain rfl := Option.some.inj found
      exact Or.inl ⟨here, rfl, here.symm⟩
    · exact Or.inr found
  refine ⟨?_, ?_, ?_, ?_, ?_, numbered.once⟩
  · intro name member found
    exact (cases found).elim And.left numbered.named
  · intro name member found
    change member.serial < fleet.launches + 1
    rcases cases found with ⟨_, new, _⟩ | old
    · omega
    · exact Nat.lt_succ_of_lt (numbered.below old)
  · intro left right first second atLeft atRight same
    rcases cases atLeft with ⟨_, new, here⟩ | old <;>
      rcases cases atRight with ⟨_, new', here'⟩ | old'
    · rw [here, here']
    · have := numbered.below old'
      omega
    · have := numbered.below old
      omega
    · exact numbered.apart old old' same
  · intro name member found
    change member.serial ∉ fleet.stopped
    rcases cases found with ⟨_, new, _⟩ | old
    · intro gone
      have := numbered.past member.serial gone
      omega
    · exact numbered.live old
  · intro serial gone
    exact Nat.lt_succ_of_lt (numbered.past serial gone)

theorem launch_numbered {launcher : Launcher} {now : Moment} {pass : Pass}
    (numbered : pass.fleet.Numbered) (wanted : String × Requirement) :
    (pass.launch launcher now wanted).fleet.Numbered := by
  rcases launch_cases launcher now pass wanted with ⟨launch, _, same⟩ | ⟨error, _, same⟩
  · rw [same]
    exact takeIn_numbered numbered _ launch now
  · rw [same]
    exact numbered.congr rfl rfl rfl

theorem turnOver_numbered {fleet : Fleet} (numbered : fleet.Numbered) (launcher : Launcher)
    (now : Moment) (topology : Topology) :
    (fleet.turnOver launcher now topology).fleet.Numbered := by
  have begun : (fleet.begin topology).Numbered := numbered.congr rfl rfl rfl
  exact launchAll_keeps (P := fun pass => pass.fleet.Numbered) _
    (fun entry _ pass held => launch_numbered held entry) (stopStale_numbered begun _)

theorem shutdown_numbered {fleet : Fleet} (numbered : fleet.Numbered) :
    fleet.shutdown.1.Numbered := by
  have serials : (fleet.members.values.map (·.serial)).Nodup :=
    Maps.nodup_map_values.mpr numbered.apart
  refine ⟨?_, ?_, ?_, ?_, ?_, ?_⟩
  · intro name member there
    simp [shutdown] at there
  · intro name member there
    simp [shutdown] at there
  · intro left right first second there
    simp [shutdown] at there
  · intro name member there
    simp [shutdown] at there
  · intro serial gone
    rcases List.mem_append.mp gone with before | now
    · exact numbered.past serial before
    · obtain ⟨name, member, there, rfl⟩ := Maps.mem_map_values.mp now
      exact numbered.below there
  · refine numbered.once.append serials ?_
    intro serial before now
    obtain ⟨name, member, there, rfl⟩ := Maps.mem_map_values.mp now
    exact numbered.live there before

theorem fetch_numbered {fleet : Fleet} (numbered : fleet.Numbered) (component : String)
    (now : Moment) (exchange : Collector.Exchange) :
    (fleet.fetch component now exchange).Numbered := by
  have launches := launches_fetch fleet component now exchange
  have stopped := stopped_fetch fleet component now exchange
  refine ⟨?_, ?_, ?_, ?_, ?_, stopped ▸ numbered.once⟩
  · intro name member there
    obtain ⟨before, old, _, spec⟩ := fetch_carries there
    exact spec ▸ numbered.named old
  · intro name member there
    obtain ⟨before, old, serial, _⟩ := fetch_carries there
    exact launches ▸ serial ▸ numbered.below old
  · intro left right first second atLeft atRight same
    obtain ⟨before, old, serial, _⟩ := fetch_carries atLeft
    obtain ⟨before', old', serial', _⟩ := fetch_carries atRight
    exact numbered.apart old old' (by rw [serial, serial', same])
  · intro name member there
    obtain ⟨before, old, serial, _⟩ := fetch_carries there
    exact stopped ▸ serial ▸ numbered.live old
  · exact stopped ▸ launches ▸ numbered.past

theorem perform_numbered {fleet : Fleet} (numbered : fleet.Numbered) (command : Command) :
    (fleet.perform command).Numbered := by
  cases command with
  | reconcile launcher write now topology =>
    exact (turnOver_numbered numbered launcher now topology).congr (members_reconcile ..)
      (launches_reconcile ..) (stopped_reconcile ..)
  | shutdown => exact shutdown_numbered numbered
  | fetch component now exchange => exact fetch_numbered numbered component now exchange
  | cancel => exact numbered.congr rfl rfl rfl

theorem run_numbered {fleet : Fleet} (numbered : fleet.Numbered) (commands : List Command) :
    (fleet.run commands).Numbered :=
  List.foldlRecOn commands _ numbered fun _ held command _ => perform_numbered held command

theorem Reachable.numbered {fleet : Fleet} (reachable : fleet.Reachable) : fleet.Numbered := by
  obtain ⟨settings, commands, rfl⟩ := reachable
  exact run_numbered (empty_numbered settings) commands

/-- Collectors are listed by the names of their components. -/
theorem Numbered.components {fleet : Fleet} (numbered : fleet.Numbered) :
    fleet.specs.map (·.component) = fleet.members.keys := by
  rw [specs, Maps.values_eq_map_toList, ← Std.ExtTreeMap.map_fst_toList_eq_keys, List.map_map,
    List.map_map]
  refine List.map_congr_left fun entry listed => ?_
  exact numbered.named (Std.ExtTreeMap.mem_toList_iff_getElem?_eq_some.mp listed)

end CoreWatch.Fleet
