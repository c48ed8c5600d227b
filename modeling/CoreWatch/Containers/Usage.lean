import CoreWatch.Bits
import CoreWatch.Json.Basic
import CoreWatch.Text.Ascii

set_option autoImplicit false

namespace CoreWatch.Container

structure CpuCounters where
  total : Nat
  system : Nat
deriving DecidableEq, Repr

def CpuCounters.toJson (counters : CpuCounters) : Json :=
  .object [("total_usage", .nat counters.total), ("system_usage", .nat counters.system)]

inductive SectionFault
  | missing (name : String)
  | wrongType (name : String)
deriving DecidableEq, Repr

def SectionFault.message : SectionFault → String
  | missing name => name ++ " missing from stats payload"
  | wrongType name => name ++ " has an unexpected type"

structure Usage where
  id : String
  name : String
  cpuPercent : Double
  memoryUsage : Nat
  memoryLimit : Nat
  memoryPercent : Double
  received : Nat
  sent : Nat
  blockRead : Nat
  blockWritten : Nat
  processes : Nat
  timestamp : Int
  warnings : List String

namespace Usage

def maxCount : Nat := Bits.top 64

/-- A count, cut to whole numbers and to the largest count; nothing unless it is at least zero. -/
def readCount? : Json → Option Nat
  | .int (.ofNat n) => some (min n maxCount)
  | .real x => if x.isNonneg then some (x.wholePart maxCount) else none
  | _ => none

/-- The count in a member, zero when there is none. -/
def countOf (key : String) (json : Json) : Nat :=
  ((json.get? key).bind readCount?).getD 0

def total (counts : List Nat) : Nat :=
  counts.foldl (fun sum n => min (sum + n) maxCount) 0

def section? (name : String) (stats : Json) : Except SectionFault Json :=
  match stats.get? name with
  | none => .error (.missing name)
  | some .null => .error (.missing name)
  | some (.obj members) => .ok (.obj members)
  | some _ => .error (.wrongType name)

/-- How many processors were in use: as told, else as many as are listed, and at least one. -/
def processors (cpu : Json) : Nat :=
  let told := countOf "online_cpus" cpu
  let listed := (((cpu.get? "cpu_usage").bind (·.get? "percpu_usage")).bind Json.items?).getD []
  if told > 0 then told else max listed.length 1

/--
The share of processor time since the previous counters, in percent of one processor. It is zero
unless both counters have grown.
-/
def cpuShare (previous : Option CpuCounters) (current : CpuCounters) (processors : Nat) : Double :=
  match previous with
  | some previous =>
    if previous.total < current.total && previous.system < current.system then
      let used := Double.ofNat (current.total - previous.total)
      let passed := Double.ofNat (current.system - previous.system)
      .mul (.mul (.div used passed) (.ofNat processors)) (.ofNat 100)
    else .zero false
  | none => .zero false

def readCpu (previous : Option CpuCounters) (stats : Json) :
    Except SectionFault (Double × CpuCounters) := do
  let cpu ← section? "cpu_stats" stats
  let current : CpuCounters :=
    { total := ((cpu.get? "cpu_usage").map (countOf "total_usage")).getD 0
      system := countOf "system_cpu_usage" cpu }
  return (cpuShare previous current (processors cpu), current)

def readMemory (stats : Json) : Except SectionFault (Nat × Nat) := do
  let memory ← section? "memory_stats" stats
  return (countOf "usage" memory, countOf "limit" memory)

def memoryShare (usage limit : Nat) : Double :=
  if limit > 0 then .mul (.div (.ofNat usage) (.ofNat limit)) (.ofNat 100) else .zero false

def readNetwork (stats : Json) : Except SectionFault (Nat × Nat) := do
  let networks ← section? "networks" stats
  let interfaces := (networks.members?.getD []).map (·.2)
  return (total (interfaces.map (countOf "rx_bytes")), total (interfaces.map (countOf "tx_bytes")))

def blockSections : List String :=
  ["blkio_stats", "blockio_stats", "blokio_stats"]

/-- Whether an entry of the block device section counts an operation, in any letter case. -/
def isOperation (operation : String) (entry : Json) : Bool :=
  match (entry.get? "op").bind Json.string? with
  | some op => Text.lowercase op == operation
  | none => false

def readBlocks (stats : Json) : Except SectionFault (Nat × Nat) := do
  let isRecord (json : Json) : Bool := json.members?.isSome
  match blockSections.findSome? fun name => (stats.get? name).filter isRecord with
  | none => .error (.missing "blkio_stats")
  | some blocks =>
    let entries := ((blocks.get? "io_service_bytes_recursive").bind Json.items?).getD []
    let moved (operation : String) : Nat :=
      total ((entries.filter (isOperation operation)).map (countOf "value"))
    return (moved "read", moved "write")

def readProcesses (stats : Json) : Except SectionFault Nat := do
  return countOf "current" (← section? "pids_stats" stats)

def warning {α : Type} (category : String) : Except SectionFault α → Option String
  | .ok _ => none
  | .error fault => some (category ++ ": " ++ fault.message)

/--
Reads a statistics document. The counters of processor time are compared with the previous ones, and
the next document is compared with those of this one, or else with the same again.
-/
def ofStats (stats : Json) (id name : String) (previous : Option CpuCounters) (timestamp : Int) :
    Usage × Option CpuCounters :=
  let cpu := readCpu previous stats
  let memory := readMemory stats
  let network := readNetwork stats
  let blocks := readBlocks stats
  let processes := readProcesses stats
  let (memoryUsage, memoryLimit) := memory.toOption.getD (0, 0)
  let (received, sent) := network.toOption.getD (0, 0)
  let (blockRead, blockWritten) := blocks.toOption.getD (0, 0)
  let usage : Usage :=
    { id, name, timestamp
      cpuPercent := (cpu.toOption.map (·.1)).getD (.zero false)
      memoryUsage, memoryLimit
      memoryPercent := memoryShare memoryUsage memoryLimit
      received, sent, blockRead, blockWritten
      processes := processes.toOption.getD 0
      warnings := [warning "cpu" cpu, warning "memory" memory, warning "network" network,
        warning "block_io" blocks, warning "pids" processes].filterMap fun given => given }
  (usage, (cpu.toOption.map (·.2)).or previous)

def toJson (usage : Usage) : Json :=
  .object <|
    [("container_id", .str usage.id),
      ("name", .str usage.name),
      ("cpu_percent", .real usage.cpuPercent),
      ("memory_usage", .nat usage.memoryUsage),
      ("memory_limit", .nat usage.memoryLimit),
      ("memory_percent", .real usage.memoryPercent),
      ("network_rx_bytes", .nat usage.received),
      ("network_tx_bytes", .nat usage.sent),
      ("block_read", .nat usage.blockRead),
      ("block_write", .nat usage.blockWritten),
      ("pids", .nat usage.processes),
      ("timestamp", .int usage.timestamp)] ++
    (if usage.warnings.isEmpty then [] else [("warnings", .strings usage.warnings)])

end Usage
end CoreWatch.Container
