import CoreWatch.Containers.Usage
import CoreWatch.Proofs.Text.Blanks
import Mathlib.Data.List.Basic

set_option autoImplicit false

/-!
What a statistics document tells falls into categories that have nothing to do with each other: the
figures of a category and the warning about it come from its own sections alone.
-/

namespace CoreWatch.Container

inductive Category
  | cpu
  | memory
  | network
  | blocks
  | processes
deriving DecidableEq, Repr

namespace Category

/-- All categories, in the order of their warnings. -/
def all : List Category :=
  [cpu, memory, network, blocks, processes]

/-- The names of the sections of a document that tell of a category. -/
def sections : Category → List String
  | cpu => ["cpu_stats"]
  | memory => ["memory_stats"]
  | network => ["networks"]
  | blocks => ["blkio_stats", "blockio_stats", "blokio_stats"]
  | processes => ["pids_stats"]

def label : Category → String
  | cpu => "cpu"
  | memory => "memory"
  | network => "network"
  | blocks => "block_io"
  | processes => "pids"

/-- Whether a warning is about a category, which stands before the first colon. -/
def warns (category : Category) (warning : String) : Bool :=
  warning.toList.takeWhile (· != ':') == category.label.toList

/-- The kind of figures that a category has. -/
def Figures : Category → Type
  | cpu => Double
  | memory => Nat × Nat × Double
  | network => Nat × Nat
  | blocks => Nat × Nat
  | processes => Nat

/-- The figures of a category. -/
def figures (usage : Usage) : (category : Category) → category.Figures
  | cpu => usage.cpuPercent
  | memory => (usage.memoryUsage, usage.memoryLimit, usage.memoryPercent)
  | network => (usage.received, usage.sent)
  | blocks => (usage.blockRead, usage.blockWritten)
  | processes => usage.processes

/-- The figures of a category that could not be read. -/
def blank : (category : Category) → category.Figures
  | cpu => Double.zero false
  | memory => ((0, 0, Double.zero false) : Nat × Nat × Double)
  | network => ((0, 0) : Nat × Nat)
  | blocks => ((0, 0) : Nat × Nat)
  | processes => (0 : Nat)

/-- What a document tells of a category, or why it tells nothing. -/
def reading (stats : Json) (previous : Option CpuCounters) :
    (category : Category) → Except SectionFault category.Figures
  | cpu => (Usage.readCpu previous stats).map (·.1)
  | memory => (Usage.readMemory stats).map fun memory =>
    (memory.1, memory.2, Usage.memoryShare memory.1 memory.2)
  | network => Usage.readNetwork stats
  | blocks => Usage.readBlocks stats
  | processes => Usage.readProcesses stats

def warning? (stats : Json) (previous : Option CpuCounters) (category : Category) :
    Option String :=
  Usage.warning category.label (reading stats previous category)

/-- Two documents have the same sections for a category. -/
def SameSections (left right : Json) (category : Category) : Prop :=
  ∀ name ∈ category.sections, left.get? name = right.get? name

/-! Readings -/

theorem section?_congr {left right : Json} {name : String}
    (same : left.get? name = right.get? name) :
    Usage.section? name left = Usage.section? name right := by
  rw [Usage.section?, Usage.section?, same]

theorem readCpu_congr {left right : Json} (previous : Option CpuCounters)
    (same : SameSections left right cpu) :
    Usage.readCpu previous left = Usage.readCpu previous right := by
  rw [Usage.readCpu, Usage.readCpu, section?_congr (same _ List.mem_cons_self)]

theorem readBlocks_congr {left right : Json} (same : SameSections left right blocks) :
    Usage.readBlocks left = Usage.readBlocks right := by
  have first : left.get? "blkio_stats" = right.get? "blkio_stats" := same _ (by decide)
  have second : left.get? "blockio_stats" = right.get? "blockio_stats" := same _ (by decide)
  have third : left.get? "blokio_stats" = right.get? "blokio_stats" := same _ (by decide)
  simp only [Usage.readBlocks, Usage.blockSections, List.findSome?_cons, List.findSome?_nil, first,
    second, third]

/-- A category is read from its own sections alone. -/
theorem reading_congr {left right : Json} (previous : Option CpuCounters) {category : Category}
    (same : SameSections left right category) :
    reading left previous category = reading right previous category := by
  cases category with
  | cpu => rw [reading, reading, readCpu_congr previous same]
  | memory =>
    have found := section?_congr (same _ List.mem_cons_self)
    rw [reading, reading, Usage.readMemory, Usage.readMemory, found]
  | network =>
    have found := section?_congr (same _ List.mem_cons_self)
    rw [reading, reading, Usage.readNetwork, Usage.readNetwork, found]
  | blocks => exact readBlocks_congr same
  | processes =>
    have found := section?_congr (same _ List.mem_cons_self)
    rw [reading, reading, Usage.readProcesses, Usage.readProcesses, found]

theorem warning?_congr {left right : Json} (previous : Option CpuCounters) {category : Category}
    (same : SameSections left right category) :
    warning? left previous category = warning? right previous category := by
  rw [warning?, warning?, reading_congr previous same]

/-! What is told of a document -/

section
variable (stats : Json) (id name : String) (previous : Option CpuCounters) (now : Int)

/-- The figures of a category are those that are read, and all zero if it cannot be read. -/
theorem figures_ofStats (category : Category) :
    figures (Usage.ofStats stats id name previous now).1 category =
      (reading stats previous category).toOption.getD category.blank := by
  cases category with
  | cpu =>
    simp only [figures, reading, Usage.ofStats]
    cases Usage.readCpu previous stats <;> rfl
  | memory =>
    simp only [figures, reading, Usage.ofStats]
    cases Usage.readMemory stats <;> rfl
  | network =>
    simp only [figures, reading, Usage.ofStats]
    cases Usage.readNetwork stats <;> rfl
  | blocks =>
    simp only [figures, reading, Usage.ofStats]
    cases Usage.readBlocks stats <;> rfl
  | processes => rfl

theorem warnings_ofStats :
    (Usage.ofStats stats id name previous now).1.warnings =
      all.filterMap (warning? stats previous) := by
  have cpu : Usage.warning "cpu" (Usage.readCpu previous stats) = warning? stats previous cpu := by
    rw [warning?, reading]
    cases Usage.readCpu previous stats <;> rfl
  have memory : Usage.warning "memory" (Usage.readMemory stats) =
      warning? stats previous memory := by
    rw [warning?, reading]
    cases Usage.readMemory stats <;> rfl
  simp only [Usage.ofStats, cpu, memory]
  rfl

end

theorem counters_congr {left right : Json} (previous : Option CpuCounters)
    (same : SameSections left right cpu) (id name : String) (now : Int) :
    (Usage.ofStats left id name previous now).2 =
      (Usage.ofStats right id name previous now).2 := by
  simp only [Usage.ofStats, readCpu_congr previous same]

/-! Warnings -/

theorem label_injective {category other : Category} (same : other.label = category.label) :
    other = category := by
  revert same
  cases other <;> cases category <;> decide

theorem warns_labelled (category other : Category) (text : String) :
    other.warns (category.label ++ ": " ++ text) = decide (category = other) := by
  have keep : category.label.toList.all (· != ':') = true := by cases category <;> decide
  have chars : (category.label ++ ": " ++ text).toList =
      category.label.toList ++ (':' :: ' ' :: text.toList) := by
    rw [String.toList_append, String.toList_append, List.append_assoc]
    rfl
  have front : (category.label.toList ++ (':' :: ' ' :: text.toList)).takeWhile (· != ':') =
      category.label.toList :=
    (Text.takeWhile_append_stop (List.all_eq_true.mp keep) (by simp)).1
  rw [warns, chars, front, Bool.eq_iff_iff, beq_iff_eq, decide_eq_true_eq, String.toList_inj]
  exact ⟨label_injective, congrArg label⟩

/-- A category that warns has no figures, and no other category warns in its name. -/
theorem warning?_eq_some {stats : Json} {previous : Option CpuCounters} {category : Category}
    {text : String} (warned : warning? stats previous category = some text) :
    (reading stats previous category).toOption = none ∧
      ∀ other : Category, other.warns text = decide (category = other) := by
  rw [warning?] at warned
  cases read : reading stats previous category with
  | ok figures =>
    rw [read] at warned
    cases warned
  | error fault =>
    rw [read] at warned
    cases warned
    exact ⟨rfl, fun other => warns_labelled category other fault.message⟩

/-- Warnings that are picked are those of the categories that they are about. -/
theorem filter_warnings (stats : Json) (previous : Option CpuCounters) {picks : String → Bool}
    {about : Category → Bool}
    (agree : ∀ category text, warning? stats previous category = some text →
      picks text = about category) :
    (all.filterMap (warning? stats previous)).filter picks =
      (all.filter about).filterMap (warning? stats previous) := by
  rw [List.filter_filterMap, List.filterMap_filter]
  refine List.filterMap_congr fun category _ => ?_
  cases warned : warning? stats previous category with
  | none => cases about category <;> rfl
  | some text => rw [Option.filter_some, agree category text warned]

section
variable (stats : Json) (id name : String) (previous : Option CpuCounters) (now : Int)

theorem filter_warns (category : Category) :
    (Usage.ofStats stats id name previous now).1.warnings.filter category.warns =
      (warning? stats previous category).toList := by
  have only : (all.filter fun other => decide (other = category)) = [category] := by
    cases category <;> rfl
  rw [warnings_ofStats, filter_warnings stats previous fun one text warned =>
    (warning?_eq_some warned).2 category, only]
  cases warned : warning? stats previous category with
  | none => rw [List.filterMap_cons_none warned, List.filterMap_nil, Option.toList_none]
  | some text => rw [List.filterMap_cons_some warned, List.filterMap_nil, Option.toList_some]

theorem filter_warns_not (category : Category) :
    (Usage.ofStats stats id name previous now).1.warnings.filter (!category.warns ·) =
      (all.filter fun other => !decide (other = category)).filterMap (warning? stats previous) := by
  rw [warnings_ofStats]
  exact filter_warnings stats previous fun one text warned =>
    congrArg (!·) ((warning?_eq_some warned).2 category)

/-- A category warns at most once, and then its figures are all zero. -/
theorem warned_blank (category : Category) :
    let usage := (Usage.ofStats stats id name previous now).1
    (usage.warnings.filter category.warns).length ≤ 1 ∧
      (usage.warnings.filter category.warns ≠ [] → figures usage category = category.blank) := by
  intro usage
  rw [filter_warns, figures_ofStats]
  cases warned : warning? stats previous category with
  | none => exact ⟨Nat.zero_le 1, fun some => absurd rfl some⟩
  | some text =>
    refine ⟨Nat.le_refl 1, fun _ => ?_⟩
    rw [(warning?_eq_some warned).1]
    rfl

theorem exists_warns {text : String}
    (listed : text ∈ (Usage.ofStats stats id name previous now).1.warnings) :
    ∃ category : Category, category.warns text = true := by
  rw [warnings_ofStats] at listed
  obtain ⟨category, -, warned⟩ := List.mem_filterMap.mp listed
  exact ⟨category, by rw [(warning?_eq_some warned).2, decide_eq_true rfl]⟩

end

/--
Two documents that have the same sections but for those of one category are told of alike: all
figures of the other categories and their warnings agree, and so do the counters left for the next
document unless it is processor time that differs. In any document every warning is about some
category, each category warns at most once, and one that does shows zero throughout.
-/
theorem categories_independent (changed : Category) (left right : Json)
    (same : ∀ other, other ≠ changed → SameSections left right other) (id name : String)
    (previous : Option CpuCounters) (now : Int) :
    let tell (stats : Json) := Usage.ofStats stats id name previous now
    (∀ other, other ≠ changed → figures (tell left).1 other = figures (tell right).1 other) ∧
    (tell left).1.warnings.filter (!changed.warns ·) =
      (tell right).1.warnings.filter (!changed.warns ·) ∧
    ((tell left).1.id = (tell right).1.id ∧ (tell left).1.name = (tell right).1.name ∧
      (tell left).1.timestamp = (tell right).1.timestamp) ∧
    (changed ≠ cpu → (tell left).2 = (tell right).2) ∧
    ∀ stats,
      (∀ text ∈ (tell stats).1.warnings, ∃ category : Category, category.warns text = true) ∧
      ∀ category : Category,
        ((tell stats).1.warnings.filter category.warns).length ≤ 1 ∧
        ((tell stats).1.warnings.filter category.warns ≠ [] →
          figures (tell stats).1 category = category.blank) := by
  intro tell
  refine ⟨fun other apart => ?_, ?_, ⟨rfl, rfl, rfl⟩, fun apart => ?_, fun stats => ⟨?_, ?_⟩⟩
  · rw [figures_ofStats, figures_ofStats, reading_congr previous (same other apart)]
  · rw [filter_warns_not, filter_warns_not]
    refine List.filterMap_congr fun other kept => ?_
    have apart : other ≠ changed := by simpa using (List.mem_filter.mp kept).2
    exact warning?_congr previous (same other apart)
  · exact counters_congr previous (same cpu apart.symm) id name now
  · exact fun text listed => exists_warns stats id name previous now listed
  · exact warned_blank stats id name previous now

/-- A document that lacks most sections, with the networks as they are given. -/
def sparseStats (networks : Json) : Json :=
  .obj [("networks", networks), ("memory_stats", .obj [("usage", .nat 10), ("limit", .str "none")]),
    ("cpu_stats", .obj [("system_cpu_usage", .nat 1000)]), ("blokio_stats", .null)]

/-- Networks that cannot be read spoil nothing but the traffic. -/
theorem categories_independent_networks :
    let tell (networks : Json) := Usage.ofStats (sparseStats networks) "c0ffee" "amf" none 0
    let sound := Json.obj [("eth0", .obj [("rx_bytes", .nat 100)])]
    (∀ other, other ≠ network →
      SameSections (sparseStats sound) (sparseStats (.str "eth0")) other) ∧
    figures (tell sound).1 network = (100, 0) ∧
    figures (tell (.str "eth0")).1 network = network.blank ∧
    figures (tell sound).1 memory = figures (tell (.str "eth0")).1 memory ∧
    (tell sound).2 = (tell (.str "eth0")).2 ∧
    (tell sound).1.warnings =
      (tell (.str "eth0")).1.warnings.filter (!network.warns ·) := by
  intro tell sound
  have same : ∀ other, other ≠ network →
      SameSections (sparseStats sound) (sparseStats (.str "eth0")) other := by
    intro other apart name listed
    cases other with
    | network => exact absurd rfl apart
    | blocks =>
      simp only [sections, List.mem_cons, List.not_mem_nil, or_false] at listed
      rcases listed with rfl | rfl | rfl <;> rfl
    | _ =>
      obtain rfl := List.mem_singleton.mp listed
      rfl
  obtain ⟨figures, warnings, -, counters, each⟩ := categories_independent network
    (sparseStats sound) (sparseStats (.str "eth0")) same "c0ffee" "amf" none 0
  have quiet : (tell sound).1.warnings.filter (!network.warns ·) = (tell sound).1.warnings := by
    decide +kernel
  refine ⟨same, rfl, ?_, figures memory (by decide), counters (by decide), ?_⟩
  · exact ((each (sparseStats (.str "eth0"))).2 network).2 (by decide +kernel)
  · exact quiet.symm.trans warnings

end Category
end CoreWatch.Container
