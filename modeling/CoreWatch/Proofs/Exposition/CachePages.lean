import CoreWatch.Proofs.Exposition.Sheets
import CoreWatch.Proofs.Prober.Runs
import CoreWatch.Proofs.Sampler.Runs
import CoreWatch.Prober.Pages
import CoreWatch.Sampler.Pages

set_option autoImplicit false

/-!
The pages of the sampler and of the prober, read again: the samples and the histories of their
caches, one row for each component, with what the topology knows of it.
-/

namespace CoreWatch

open Exposition

namespace Sampler

/-- Each usage is kept by the name of its component. -/
def Keyed (sampler : Sampler) : Prop :=
  ∀ (name : String) (usage : Container.Usage),
    sampler.usages[name]? = some usage → usage.name = name

/-- Sweeps keep every usage by the name of its component. -/
theorem keyed_run (rounds : List Round) : (run rounds).Keyed := by
  intro name usage found
  rw [(run_tells rounds name).usage] at found
  obtain ⟨reading, last, rfl⟩ := Option.map_eq_some_iff.mp found
  have listed := List.mem_of_getLast? last
  obtain ⟨round, -, inside⟩ := List.mem_flatMap.mp listed
  exact eq_of_beq (List.mem_filter.mp inside).2

def labelNames : List String :=
  ["container_name", "container_id", "component_type", "deployment_type", "component_ip"]

/-- The labels of a container's series; those of its component there are while it is known. -/
structure Labelled (topology : Topology) (usage : Container.Usage) (labels : LabelSet) : Prop where
  name : labels["container_name"]? = some usage.name
  id : labels["container_id"]? = some (String.ofList (usage.id.toList.take 12))
  type : labels["component_type"]? = (topology.get? usage.name).map (·.type)
  deployment : labels["deployment_type"]? =
    (topology.get? usage.name).map fun _ => topology.deployment.name
  address : labels["component_ip"]? = (topology.get? usage.name).map (·.address)
  others : ∀ name, name ∉ labelNames → labels[name]? = none

/-- The records of a container. -/
structure Shows (topology : Topology) (usage : Container.Usage) (records : List Sample) :
    Prop where
  figures : records.map (fun record => (record.name, record.kind, record.value)) =
    [("container_cpu_usage_percent", .gauge, usage.cpuPercent),
     ("container_memory_usage_bytes", .gauge, .ofNat usage.memoryUsage),
     ("container_memory_limit_bytes", .gauge, .ofNat usage.memoryLimit),
     ("container_memory_usage_percent", .gauge, usage.memoryPercent),
     ("container_network_rx_bytes", .counter, .ofNat usage.received),
     ("container_network_tx_bytes", .counter, .ofNat usage.sent),
     ("container_block_read_bytes", .counter, .ofNat usage.blockRead),
     ("container_block_write_bytes", .counter, .ofNat usage.blockWritten),
     ("container_pids", .gauge, .ofNat usage.processes)]
  labels : ∀ record ∈ records, Labelled topology usage record.labels

section

variable (topology : Topology) (usage : Container.Usage)

theorem names_seriesLabels : (seriesLabels topology usage).map (·.name) <+: labelNames := by
  rw [seriesLabels]
  cases topology.get? usage.name with
  | none => exact ⟨_, rfl⟩
  | some component => exact List.prefix_rfl

theorem isLabelName_seriesLabels {label : Label} (listed : label ∈ seriesLabels topology usage) :
    isLabelName label.name.toList = true := by
  have valid : ∀ name ∈ labelNames, isLabelName name.toList = true := by decide +kernel
  exact valid _ ((names_seriesLabels topology usage).mem (List.mem_map_of_mem listed))

theorem seriesLabels_labelled :
    Labelled topology usage (.ofLabels (seriesLabels topology usage)) := by
  have others (name : String) (foreign : name ∉ labelNames) :
      (LabelSet.ofLabels (seriesLabels topology usage))[name]? = none :=
    LabelSet.getElem?_ofLabels_of_notMem fun listed =>
      foreign ((names_seriesLabels topology usage).mem listed)
  refine ⟨?_, ?_, ?_, ?_, ?_, others⟩
  all_goals
    rw [LabelSet.getElem?_ofLabels_last, seriesLabels]
    cases topology.get? usage.name <;> simp [LabelSet.lastValue?, shortId]

theorem rows_shown :
    Shows topology usage (measures.map (·.record (seriesLabels topology) usage)) where
  figures := by
    simp only [measures, Measure.record, Kind.announced, List.map_cons, List.map_nil]
  labels record listed := by
    obtain ⟨measure, -, rfl⟩ := List.mem_map.mp listed
    exact seriesLabels_labelled topology usage

end

theorem measures_readable : ∀ measure ∈ measures, measure.Readable := by
  decide +kernel

end Sampler

namespace Prober

/-- Each history is kept by the name of its component. -/
def Keyed (prober : Prober) : Prop :=
  ∀ (name : String) (history : History),
    prober.histories[name]? = some history → history.component = name

theorem component_replay (name : String) (findings : List Finding) :
    (History.replay name findings).component = name := by
  induction findings using List.reverseRecOn with
  | nil => rfl
  | append_singleton findings finding ih =>
    rw [History.replay_concat]
    exact ih

/-- Sweeps keep every history by the name of its component. -/
theorem keyed_run (policy : CheckPolicy) (rounds : List Round) : (run policy rounds).Keyed := by
  intro name history found
  have held : (run policy rounds).historyOf name = history := by
    rw [historyOf, found, Option.getD_some]
  rw [← held, historyOf_run, component_replay]

/-- The history of a component that has been probed. -/
def probed? (prober : Prober) (name : String) : Option History :=
  prober.histories[name]?.filter (·.checks > 0)

theorem probed?_eq_some_iff {prober : Prober} {name : String} {history : History} :
    prober.probed? name = some history ↔
      prober.histories[name]? = some history ∧ 0 < history.checks := by
  simp [probed?, Option.filter_eq_some_iff]

def labelNames : List String :=
  ["component_name", "component_id", "check_type", "endpoint", "component_type",
    "deployment_type"]

/-- The labels of a component's series; two of them there are while it is known. -/
structure Labelled (topology : Topology) (history : History) (labels : LabelSet) : Prop where
  name : labels["component_name"]? = some history.component
  id : labels["component_id"]? = some history.component
  kind : labels["check_type"]? = some ((history.kind.map CheckKind.name).getD "")
  endpoint : labels["endpoint"]? = some history.endpoint
  type : labels["component_type"]? = (topology.get? history.component).map (·.type)
  deployment : labels["deployment_type"]? =
    (topology.get? history.component).map fun _ => topology.deployment.name
  others : ∀ name, name ∉ labelNames → labels[name]? = none

/-- The records of a component. -/
structure Shows (topology : Topology) (history : History) (records : List Sample) : Prop where
  figures : records.map (fun record => (record.name, record.kind, record.value)) =
    [("component_health_status", .gauge, .ofNat (if history.condition = .up then 1 else 0)),
     ("component_health_response_time", .gauge, history.responseMillis),
     ("component_health_success_rate", .gauge, history.successRate),
     ("component_health_consecutive_failures", .gauge, .ofNat history.failuresInARow),
     ("component_health_total_checks", .counter, .ofNat history.checks)]
  labels : ∀ record ∈ records, Labelled topology history record.labels

section

variable (topology : Topology) (history : History)

theorem names_seriesLabels : (seriesLabels topology history).map (·.name) <+: labelNames := by
  rw [seriesLabels]
  cases topology.get? history.component with
  | none => exact ⟨_, rfl⟩
  | some component => exact List.prefix_rfl

theorem isLabelName_seriesLabels {label : Label} (listed : label ∈ seriesLabels topology history) :
    isLabelName label.name.toList = true := by
  have valid : ∀ name ∈ labelNames, isLabelName name.toList = true := by decide +kernel
  exact valid _ ((names_seriesLabels topology history).mem (List.mem_map_of_mem listed))

theorem seriesLabels_labelled :
    Labelled topology history (.ofLabels (seriesLabels topology history)) := by
  have others (name : String) (foreign : name ∉ labelNames) :
      (LabelSet.ofLabels (seriesLabels topology history))[name]? = none :=
    LabelSet.getElem?_ofLabels_of_notMem fun listed =>
      foreign ((names_seriesLabels topology history).mem listed)
  refine ⟨?_, ?_, ?_, ?_, ?_, ?_, others⟩
  all_goals
    rw [LabelSet.getElem?_ofLabels_last, seriesLabels]
    cases topology.get? history.component <;> simp [LabelSet.lastValue?]

theorem rows_shown :
    Shows topology history (measures.map (·.record (seriesLabels topology) history)) where
  figures := by
    simp only [measures, Measure.record, Kind.announced, List.map_cons, List.map_nil]
  labels record listed := by
    obtain ⟨measure, -, rfl⟩ := List.mem_map.mp listed
    exact seriesLabels_labelled topology history

end

theorem measures_readable : ∀ measure ∈ measures, measure.Readable := by
  decide +kernel

end Prober

/--
What the sampler and the prober serve is read again as what they keep, in whatever words: of every
container its nine figures, and of every component that has been probed its five. All of them have
the name, and what the topology knows of it; no line is lost and no series comes twice.
-/
theorem pages_read_back (sampler : Sampler) (sampled : sampler.Keyed) (prober : Prober)
    (probed : prober.Keyed) (topology : Topology) :
    (∃ text, encode (sampler.families topology) = .ok text ∧
      Tabulates text "container_name" (fun name => sampler.usages[name]?)
        (Sampler.Shows topology)) ∧
    ∃ text, encode (prober.families topology) = .ok text ∧
      Tabulates text "component_name" prober.probed? (Prober.Shows topology) := by
  constructor
  · have marked (name : String) (usage : Container.Usage)
        (found : sampler.usages[name]? = some usage) :
        mark? (Sampler.seriesLabels topology) "container_name" usage = some name := by
      rw [mark?, (Sampler.seriesLabels_labelled topology usage).name, sampled name usage found]
    apply sheet_tabulates Sampler.measures_readable (by decide +kernel) _ _ marked _
      (Sampler.rows_shown topology)
    · exact fun usage label listed => Sampler.isLabelName_seriesLabels topology usage listed
    · exact fun usage => Maps.mem_values
    · exact Maps.nodup_map_values_of_told marked
  · have marked (name : String) (history : Prober.History)
        (found : prober.histories[name]? = some history) :
        mark? (Prober.seriesLabels topology) "component_name" history = some name := by
      rw [mark?, (Prober.seriesLabels_labelled topology history).name, probed name history found]
    apply sheet_tabulates Prober.measures_readable (by decide +kernel) _ _ _ _
      (Prober.rows_shown topology)
    · exact fun history label listed => Prober.isLabelName_seriesLabels topology history listed
    · intro history
      rw [List.mem_filter, Maps.mem_values, decide_eq_true_iff, ← exists_and_right]
      exact exists_congr fun name => Prober.probed?_eq_some_iff.symm
    · intro name history found
      exact marked name history (Prober.probed?_eq_some_iff.mp found).1
    · have all : (prober.histories.values.map
          (mark? (Prober.seriesLabels topology) "component_name")).Nodup :=
        Maps.nodup_map_values_of_told marked
      exact all.sublist (List.filter_sublist.map _)

/-- One component, whose name and tag are full of what has a meaning in the text, after a sweep. -/
theorem pages_read_back_swept :
    let components : List Component :=
      [⟨"amf\"\x7d 1\n#", "\\", "10.0.0.1", true, [7777]⟩]
    let container : Container :=
      ⟨"0123456789abcdef", "amf\"\x7d 1\n#", "running", "", none, [], []⟩
    let sampler := Sampler.run [
      { topology := .ofComponents components
        named := Topology.ofComponents_named components
        host := ⟨.answered (.ok [container]) false, fun _ => .answered (.ok (.obj [])) false⟩
        stopped := false
        clock := fun _ => 0 }]
    let prober := Prober.run {} [
      { topology := .ofComponents components
        named := Topology.ofComponents_named components
        probe := fun check => .ofOutcome (check.fault? (.refused "connection refused")) .nan
        now := 0 }]
    let topology := Topology.ofComponents components
    sampler.usages.keys = ["amf\"\x7d 1\n#"] ∧ sampler.Keyed ∧
      prober.histories.keys = ["amf\"\x7d 1\n#"] ∧ prober.Keyed ∧
      (∃ text, encode (sampler.families topology) = .ok text ∧
        Tabulates text "container_name" (fun name => sampler.usages[name]?)
          (Sampler.Shows topology)) ∧
      ∃ text, encode (prober.families topology) = .ok text ∧
        Tabulates text "component_name" prober.probed? (Prober.Shows topology) := by
  intro components container sampler prober topology
  have sampled : sampler.Keyed := Sampler.keyed_run _
  have probed : prober.Keyed := Prober.keyed_run _ _
  exact ⟨by decide +kernel, sampled, by decide +kernel, probed,
    pages_read_back sampler sampled prober probed topology⟩

end CoreWatch
