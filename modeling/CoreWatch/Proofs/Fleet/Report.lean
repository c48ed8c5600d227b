import CoreWatch.Config.Basic
import CoreWatch.Fleet.Status
import CoreWatch.Proofs.Collector.Ageing
import CoreWatch.Proofs.Fleet.Ports
import CoreWatch.Proofs.Fleet.Writing
import Mathlib.Data.List.Forall2

set_option autoImplicit false

/-!
The report on a fleet: an entry for each collector that lives, their number by health, the latest
topology, and what is wrong. Whatever was done to the fleet before, the report agrees with it; there
is none only where the health of some collector cannot be told.
-/

namespace CoreWatch

theorem Json.get?_object {members : List (String × Json)}
    (distinct : (members.map Prod.fst).Nodup) {key : String} {value : Json}
    (listed : (key, value) ∈ members) : (Json.object members).get? key = some value := by
  have there := Maps.mem_toList_ofList distinct listed
  have single := Maps.filter_key_eq (Maps.nodup_toList_keys _) there
  rw [object, get?, ← List.head?_filter, single]
  rfl

/-! Answers that all have to be there -/

section

variable {α β : Type} {f : α → Option β} {items : List α}

theorem mapM_eq_some_iff {images : List β} :
    items.mapM f = some images ↔ items.map f = images.map some := by
  induction items generalizing images with
  | nil => cases images <;> simp
  | cons item rest ih =>
    rw [List.mapM_cons, List.map_cons]
    cases first : f item with
    | none => cases images <;> simp
    | some image =>
      cases images with
      | nil => cases rest.mapM f <;> simp
      | cons other images =>
        rw [List.map_cons, List.cons.injEq, ← ih]
        cases rest.mapM f <;> simp

theorem mapM_eq_none_iff : items.mapM f = none ↔ ∃ item ∈ items, f item = none := by
  induction items with
  | nil => simp
  | cons item rest ih =>
    rw [List.mapM_cons, List.exists_mem_cons_iff, ← ih]
    cases f item with
    | none => simp
    | some image => cases rest.mapM f <;> simp

/-- What an answer tells of its item. -/
theorem map_eq_of_answers {γ : Type} {images : List β} {g : β → γ} {h : α → γ}
    (told : ∀ item image, f item = some image → g image = h item)
    (answers : items.map f = images.map some) : images.map g = items.map h := by
  rw [← List.forall₂_eq_eq_eq, List.forall₂_map_left_iff, List.forall₂_map_right_iff] at answers ⊢
  exact answers.flip.imp fun image item same => told item image same

end

namespace Collector

/-- A collector whose health hangs on a doubled interval that cannot be held. -/
structure Overlong (collector : Collector) (now : Moment) : Prop where
  long : Span.limit ≤ 2 * collector.settings.fetchInterval.nanos
  works : collector.status.works = true
  trusted : (collector.status.age collector.startedAt now).nanos ≤
    collector.settings.staleAfter.nanos

theorem record?_eq_none_iff {collector : Collector} {now : Moment} :
    collector.record? now = none ↔ collector.Overlong now := by
  rw [record?, Option.map_eq_none_iff, health?]
  by_cases held : 2 * collector.settings.fetchInterval.nanos < Span.limit
  · rw [FetchStatus.health?_eq _ _ _ held]
    refine iff_of_false (Option.some_ne_none _) fun overlong => ?_
    exact Nat.not_lt.mpr overlong.long held
  · have long := Nat.not_lt.mp held
    rw [FetchStatus.health?_eq_none_iff _ _ _ long]
    exact ⟨fun ⟨works, trusted⟩ => ⟨long, works, trusted⟩,
      fun overlong => ⟨overlong.works, overlong.trusted⟩⟩

theorem spec_of_record? {collector : Collector} {now : Moment} {record : Record}
    (told : collector.record? now = some record) : record.spec = collector.spec := by
  obtain ⟨health, -, rfl⟩ := Option.map_eq_some_iff.mp told
  rfl

end Collector

namespace Fleet

/-! The latest topology -/

/-- The topology of a command that reconciles with one. -/
def Command.topology? : Command → Option Topology
  | reconcile _ _ _ topology => some topology
  | _ => none

/-- The topology of the last pass; before the first one it is empty. -/
def latestTopology (commands : List Command) : Topology :=
  (commands.filterMap Command.topology?).getLast?.getD .empty

theorem topology_perform (fleet : Fleet) (command : Command) :
    (fleet.perform command).topology = command.topology?.getD fleet.topology := by
  cases command with
  | reconcile launcher write now topology => exact topology_reconcile ..
  | shutdown => rfl
  | fetch component now exchange =>
    rw [perform, fetch]
    split <;> rfl
  | cancel => rfl

theorem topology_run (settings : Settings) (commands : List Command) :
    ((empty settings).run commands).topology = latestTopology commands := by
  induction commands using List.reverseRecOn with
  | nil => rfl
  | append_singleton commands last ih =>
    have step : (empty settings).run (commands ++ [last]) =
        ((empty settings).run commands).perform last := List.foldl_concat ..
    rw [step, topology_perform, ih, latestTopology, latestTopology, List.filterMap_append]
    cases told : last.topology? with
    | none => simp [told]
    | some topology => simp [told]

/-! Ports that several collectors hold -/

/-- Whether the collector of a component lives and holds a port. -/
def Holds (fleet : Fleet) (name : String) (port : Nat) : Prop :=
  ∃ member, fleet.member? name = some member ∧ member.spec.port = port

/-- The conflicts of a fleet: each port that two collectors hold, with all that hold it. -/
structure Conflicts (fleet : Fleet) (conflicts : List (Nat × List String)) : Prop where
  ascending : (conflicts.map Prod.fst).Pairwise (· < ·)
  shared : ∀ port, port ∈ conflicts.map Prod.fst ↔
    ∃ left right, left ≠ right ∧ fleet.Holds left port ∧ fleet.Holds right port
  holders : ∀ conflict ∈ conflicts, conflict.2.Pairwise (· < ·) ∧
    ∀ name, name ∈ conflict.2 ↔ fleet.Holds name conflict.1

section

variable {fleet : Fleet}

theorem Numbered.mem_holders (numbered : fleet.Numbered) {port : Nat} {name : String} :
    name ∈ fleet.holders port ↔ fleet.Holds name port := by
  rw [holders, List.mem_map]
  constructor
  · rintro ⟨spec, held, rfl⟩
    obtain ⟨listed, same⟩ := List.mem_filter.mp held
    obtain ⟨name, member, there, rfl⟩ := Maps.mem_map_values.mp listed
    rw [numbered.named there]
    exact ⟨member, there, of_decide_eq_true same⟩
  · rintro ⟨member, there, same⟩
    have listed : member.spec ∈ fleet.specs := Maps.mem_map_values.mpr ⟨name, member, there, rfl⟩
    exact ⟨member.spec, List.mem_filter.mpr ⟨listed, decide_eq_true same⟩, numbered.named there⟩

theorem Numbered.holders_ascending (numbered : fleet.Numbered) (port : Nat) :
    (fleet.holders port).Pairwise (· < ·) := by
  have ascending := Maps.keys_ascending fleet.members
  rw [← numbered.components] at ascending
  exact ascending.sublist (List.filter_sublist.map _)

theorem mem_heldPorts {port : Nat} : port ∈ fleet.heldPorts ↔ port ∈ fleet.ports := by
  rw [heldPorts, Std.ExtTreeMap.mem_keys, Std.ExtTreeMap.mem_ofList, List.contains_iff_mem,
    List.map_map]
  exact Iff.of_eq (congrArg (port ∈ ·) (List.map_id _))

theorem heldPorts_ascending (fleet : Fleet) : fleet.heldPorts.Pairwise (· < ·) := by
  rw [heldPorts]
  exact Std.ExtTreeMap.ordered_keys.imp fun before => Nat.compare_eq_lt.mp before

theorem one_lt_length_iff {names : List String} (ascending : names.Pairwise (· < ·)) :
    1 < names.length ↔ ∃ left ∈ names, ∃ right ∈ names, left ≠ right := by
  match names, ascending with
  | [], _ => simp
  | [name], _ => simp
  | first :: second :: rest, ascending =>
    have apart : first ≠ second :=
      String.ne_of_lt ((List.pairwise_cons.mp ascending).1 second List.mem_cons_self)
    refine iff_of_true ?_ ⟨first, List.mem_cons_self, second, by simp, apart⟩
    simp only [List.length_cons]
    omega

/-- The ports that are reported. -/
def sharedPorts (fleet : Fleet) : List Nat :=
  fleet.heldPorts.filter fun port => 1 < (fleet.holders port).length

theorem portConflicts_eq (fleet : Fleet) :
    fleet.portConflicts =
      fleet.sharedPorts.map fun port => .portConflict port (fleet.holders port) := by
  rw [portConflicts, sharedPorts, ← List.filterMap_eq_filter, List.map_filterMap]
  congr 1
  funext port
  by_cases shared : 1 < (fleet.holders port).length
  · simp [shared]
  · simp [shared]

theorem Numbered.conflicts (numbered : fleet.Numbered) :
    fleet.Conflicts (fleet.sharedPorts.map fun port => (port, fleet.holders port)) := by
  have ports : (fleet.sharedPorts.map fun port => (port, fleet.holders port)).map Prod.fst =
      fleet.sharedPorts := by
    rw [List.map_map]
    exact List.map_id _
  refine ⟨?_, fun port => ?_, ?_⟩
  · rw [ports]
    exact (heldPorts_ascending fleet).sublist List.filter_sublist
  · rw [ports, sharedPorts, List.mem_filter, decide_eq_true_iff, mem_heldPorts, mem_ports,
      one_lt_length_iff (numbered.holders_ascending port)]
    simp only [numbered.mem_holders]
    constructor
    · rintro ⟨-, left, atLeft, right, atRight, apart⟩
      exact ⟨left, right, apart, atLeft, atRight⟩
    · rintro ⟨left, right, apart, atLeft, atRight⟩
      exact ⟨⟨left, atLeft⟩, left, atLeft, right, atRight, apart⟩
  · intro conflict listed
    obtain ⟨port, -, rfl⟩ := List.mem_map.mp listed
    exact ⟨numbered.holders_ascending port, fun name => numbered.mem_holders⟩

end

/-! Functions that no collector watches -/

/-- The functions whose lack is reported: a core of the fifth generation is to have all three. -/
structure Lacks (fleet : Fleet) (topology : Topology) (functions : List NetworkFunction) :
    Prop where
  ordered : functions.Sublist [.amf, .smf, .upf]
  missing : ∀ function, function ∈ functions ↔
    function ∈ [NetworkFunction.amf, .smf, .upf] ∧
      topology.isEmpty = false ∧ topology.deployment ≠ .fourG ∧
        ∀ name member, fleet.member? name = some member → member.spec.function ≠ function

/-- The functions that are reported. -/
def lackedFunctions (fleet : Fleet) : List NetworkFunction :=
  if fleet.topology.isEmpty || fleet.topology.deployment = .fourG then []
  else expectedFunctions.filter fun function => !fleet.specs.any (·.function = function)

theorem missingFunctions_eq (fleet : Fleet) :
    fleet.missingFunctions = fleet.lackedFunctions.map .missingFunction := by
  rw [missingFunctions, lackedFunctions]
  split <;> rfl

theorem unwatched_iff {fleet : Fleet} {function : NetworkFunction} :
    (!fleet.specs.any (·.function = function)) = true ↔
      ∀ name member, fleet.member? name = some member → member.spec.function ≠ function := by
  rw [Bool.not_eq_true', List.any_eq_false]
  constructor
  · intro unwatched name member there same
    have listed : member.spec ∈ fleet.specs := Maps.mem_map_values.mpr ⟨name, member, there, rfl⟩
    exact unwatched member.spec listed (decide_eq_true same)
  · intro unwatched spec listed same
    obtain ⟨name, member, there, rfl⟩ := Maps.mem_map_values.mp listed
    exact unwatched name member there (of_decide_eq_true same)

theorem lackedFunctions_lacks (fleet : Fleet) :
    fleet.Lacks fleet.topology fleet.lackedFunctions := by
  rw [lackedFunctions]
  split
  next unasked =>
    refine ⟨List.nil_sublist _, fun function => iff_of_false List.not_mem_nil ?_⟩
    rintro ⟨-, known, generation, -⟩
    simp [known, generation] at unasked
  next asked =>
    rw [Bool.or_eq_true, not_or, Bool.not_eq_true, decide_eq_true_iff] at asked
    refine ⟨List.filter_sublist, fun function => ?_⟩
    rw [List.mem_filter, unwatched_iff]
    exact and_congr_right fun _ =>
      ⟨fun unwatched => ⟨asked.1, asked.2, unwatched⟩, fun ⟨_, _, unwatched⟩ => unwatched⟩

/-! Reports -/

/-- A report that agrees with the collectors of a fleet and with the latest topology. -/
structure Reports (fleet : Fleet) (topology : Topology) (now : Moment) (status : Status) :
    Prop where
  ascending : (status.records.map (·.spec.component)).Pairwise (· < ·)
  names : ∀ name, name ∈ status.records.map (·.spec.component) ↔ ∃ member,
    fleet.member? name = some member
  records : ∀ record, record ∈ status.records ↔ ∃ name member,
    fleet.member? name = some member ∧ member.collector.record? now = some record
  healths : fleet.size =
    status.count .healthy + status.count .degraded + status.count .unhealthy
  deployment : status.deployment = topology.deployment
  figures : ∀ figure ∈ [("total_collectors", fleet.size), ("healthy", status.count .healthy),
      ("degraded", status.count .degraded), ("unhealthy", status.count .unhealthy),
      ("components_total", topology.size), ("components_running", topology.running.length)],
    (status.toJson fleet.settings).get? figure.1 = some (.nat figure.2)
  issues : ∃ conflicts functions, fleet.Conflicts conflicts ∧ fleet.Lacks topology functions ∧
    status.issues =
      conflicts.map (fun conflict => .portConflict conflict.1 conflict.2) ++
        functions.map .missingFunction

/-- Every record counts for its health. -/
theorem Status.length_records (status : Status) :
    status.records.length =
      status.count .healthy + status.count .degraded + status.count .unhealthy := by
  simp only [count]
  induction status.records with
  | nil => rfl
  | cons record records ih =>
    simp only [List.filter_cons, List.length_cons]
    cases record.health <;> simp <;> omega

theorem Status.get?_toJson (status : Status) (settings : Settings) {figure : String × Nat}
    (listed : figure ∈ [("total_collectors", status.records.length),
      ("healthy", status.count .healthy), ("degraded", status.count .degraded),
      ("unhealthy", status.count .unhealthy), ("components_total", status.componentCount),
      ("components_running", status.runningCount)]) :
    (status.toJson settings).get? figure.1 = some (.nat figure.2) := by
  apply Json.get?_object
  · simp
  · simp only [List.mem_cons, List.not_mem_nil, or_false] at listed
    rcases listed with rfl | rfl | rfl | rfl | rfl | rfl <;> simp

section

variable {fleet : Fleet} {now : Moment} {records : List Collector.Record}

theorem records?_eq_none_iff :
    fleet.records? now = none ↔
      ∃ name member, fleet.member? name = some member ∧ member.collector.Overlong now := by
  rw [records?, mapM_eq_none_iff]
  simp only [Maps.mem_values, Collector.record?_eq_none_iff]
  constructor
  · rintro ⟨member, ⟨name, there⟩, overlong⟩
    exact ⟨name, member, there, overlong⟩
  · rintro ⟨name, member, there, overlong⟩
    exact ⟨member, ⟨name, there⟩, overlong⟩

theorem mem_records (answered : fleet.records? now = some records) {record : Collector.Record} :
    record ∈ records ↔ ∃ name member,
      fleet.member? name = some member ∧ member.collector.record? now = some record := by
  have answers := mapM_eq_some_iff.mp answered
  rw [← List.mem_map_of_injective (Option.some_injective _), ← answers]
  exact Maps.mem_map_values

theorem Numbered.names_records (numbered : fleet.Numbered)
    (answered : fleet.records? now = some records) :
    records.map (·.spec.component) = fleet.members.keys := by
  have answers := mapM_eq_some_iff.mp answered
  rw [← numbered.components, specs, List.map_map]
  refine map_eq_of_answers (fun member record told => ?_) answers
  rw [Collector.spec_of_record? told]
  rfl

theorem Numbered.reports (numbered : fleet.Numbered) {status : Status}
    (told : fleet.status? now = some status) : fleet.Reports fleet.topology now status := by
  obtain ⟨records, answered, made⟩ := Option.map_eq_some_iff.mp told
  have whole : fleet.records? now = some status.records := by rw [answered, ← made]
  have names := numbered.names_records whole
  have total : status.records.length = fleet.size := by
    rw [← List.length_map (fun record : Collector.Record => record.spec.component), names]
    exact Std.ExtTreeMap.length_keys
  refine ⟨?_, fun name => ?_, fun record => mem_records whole, ?_, ?_, ?_, ?_⟩
  · rw [names]
    exact Maps.keys_ascending fleet.members
  · rw [names, Std.ExtTreeMap.mem_keys]
    exact Maps.mem_iff_exists
  · rw [← total]
    exact status.length_records
  · rw [← made]
  · have components : status.componentCount = fleet.topology.size := by rw [← made]
    have running : status.runningCount = fleet.topology.running.length := by rw [← made]
    rw [← total, ← components, ← running]
    exact fun figure listed => status.get?_toJson fleet.settings listed
  · refine ⟨_, _, numbered.conflicts, lackedFunctions_lacks fleet, ?_⟩
    rw [← made, List.map_map]
    exact congrArg₂ (· ++ ·) (portConflicts_eq fleet) (missingFunctions_eq fleet)

end

/--
After any commands there is a report of the fleet, unless the health of some collector cannot be
told. It has an entry for each collector that lives, numbers that add up, and the latest topology.
What is wrong comes in order: ports that several collectors hold, then functions that none watches.
-/
theorem status_consistent (settings : Settings) (commands : List Command) (now : Moment) :
    let fleet := (empty settings).run commands
    (fleet.status? now = none ↔ ∃ name member,
        fleet.member? name = some member ∧ member.collector.Overlong now) ∧
      ∀ status, fleet.status? now = some status →
        fleet.Reports (latestTopology commands) now status := by
  intro fleet
  have numbered : fleet.Numbered := run_numbered (empty_numbered settings) commands
  constructor
  · rw [status?, Option.map_eq_none_iff]
    exact records?_eq_none_iff
  · intro status told
    rw [← topology_run settings commands]
    exact numbered.reports told

/--
Any interval but zero is accepted. With one of `2 ^ 63` seconds there is no report of a collector
that has just fetched.
-/
theorem status_untold :
    let config : Config := { instanceName := "nfmon", fetchSeconds := 2 ^ 63 }
    let launcher : Launcher := fun spec =>
      .ok { port := spec.port, settings := config.collectorSettings }
    let topology := Topology.ofComponents [⟨"amf", "", "10.0.0.1", true, []⟩]
    let fleet := (empty {}).run [.reconcile launcher (fun _ => true) ⟨0⟩ topology,
      .fetch "amf" ⟨1⟩ (.ok ⟨200, .ok "up 1\n"⟩)]
    config.zeroPeriod? = none ∧ fleet.members.keys = ["amf"] ∧
      (fleet.member? "amf").map (·.collector.status.works) = some true ∧
      fleet.status? ⟨1⟩ = none := by
  decide +kernel

/-- Two collectors that come up on one port, in a core without user plane. -/
example :
    let topology := Topology.ofComponents
      [⟨"smf", "", "10.0.0.2", true, []⟩, ⟨"amf", "", "10.0.0.1", true, []⟩]
    let launcher : Launcher := fun _ => .ok { port := 9100, settings := {} }
    let fleet := (empty {}).run [.reconcile launcher (fun _ => true) ⟨0⟩ topology]
    fleet.issues = [.portConflict 9100 ["amf", "smf"], .missingFunction .upf] := by
  decide +kernel

end Fleet
end CoreWatch
