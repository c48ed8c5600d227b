import CoreWatch.Bits
import CoreWatch.Containers.Basic
import CoreWatch.Http.Basic
import CoreWatch.Json.Shape
import CoreWatch.Text.Blank

set_option autoImplicit false

namespace CoreWatch.Container

open Shape

private def portShape : Shape :=
  record [may "IP" text, need "PrivatePort" (natural 65535), may "PublicPort" (natural 65535),
    may "Type" (word ["", "tcp", "udp", "sctp"])]

private def endpointShape : Shape :=
  record [
    may "IPAMConfig" (record [may "IPv4Address" text, may "IPv6Address" text,
      may "LinkLocalIPs" (list text)]),
    may "Links" (list text), may "Aliases" (list text), may "NetworkID" text,
    may "EndpointID" text, may "Gateway" text, may "IPAddress" text, may "IPPrefixLen" integer,
    may "IPv6Gateway" text, may "GlobalIPv6Address" text, may "GlobalIPv6PrefixLen" integer,
    may "MacAddress" text, may "DriverOpts" (table text)]

private def mountShape : Shape :=
  record [
    may "Type" (word ["", "bind", "volume", "tmpfs", "npipe", "cluster"]), may "Name" text,
    may "Source" text, may "Destination" text, may "Driver" text, may "Mode" text,
    may "RW" flag, may "Propagation" text]

private def summaryShape : Shape :=
  record [
    may "Id" text, may "Names" (list text), may "Image" text, may "ImageID" text,
    may "Command" text, may "Created" integer, may "Ports" (list portShape),
    may "SizeRw" integer, may "SizeRootFs" integer, may "Labels" (table text), may "State" text,
    may "Status" text, may "HostConfig" (record [may "NetworkMode" text]),
    may "NetworkSettings" (record [may "Networks" (table endpointShape)]),
    may "Mounts" (list mountShape)]

/-- What the list of containers tells of one of them; an engine may leave out any of it. -/
structure Summary where
  id : Option String
  names : Option (List String)
  state : Option String
  image : Option String
  /-- The ports on the side of the container. -/
  ports : Option (List Nat)
  /-- The networks by name, each with the address that the container has there. -/
  networks : Option (List (String × Option String))
  labels : Option (List (String × String))

def sortPorts (ports : List Nat) : List Nat :=
  (ports.mergeSort (· ≤ ·)).eraseReps

namespace Summary

def name (summary : Summary) : String :=
  match (summary.names.getD []).head? with
  | some name => String.ofList (name.toList.dropWhile (· = '/'))
  | none => ""

/-- The first address that is not empty, in ascending order of network names. -/
def address? (summary : Summary) : Option String :=
  let networks := (summary.networks.getD []).mergeSort fun left right => left.1 ≤ right.1
  networks.findSome? fun network => network.2.filter (!·.isEmpty)

def container (summary : Summary) : Container :=
  { id := summary.id.getD ""
    name := summary.name
    state := summary.state.getD ""
    image := summary.image.getD ""
    address := summary.address?
    ports := sortPorts (summary.ports.getD [])
    labels := summary.labels.getD [] }

private def text? (key : String) (json : Json) : Option String :=
  (json.get? key).bind Json.string?

private def items? (key : String) (json : Json) : Option (List Json) :=
  (json.get? key).bind Json.items?

private def members? (key : String) (json : Json) : Option (List (String × Json)) :=
  (json.get? key).bind Json.members?

def ofJson (json : Json) : Summary :=
  { id := text? "Id" json
    names := (items? "Names" json).map (·.filterMap Json.string?)
    state := text? "State" json
    image := text? "Image" json
    ports := (items? "Ports" json).map (·.filterMap fun port =>
      ((port.get? "PrivatePort").bind Json.int?).map Int.toNat)
    networks := ((json.get? "NetworkSettings").bind (members? "Networks")).map
      (·.map fun (name, network) => (name, text? "IPAddress" network))
    labels := (members? "Labels" json).map (·.filterMap fun (key, value) =>
      value.string?.map (key, ·)) }

end Summary

def readList (text : String) : Except RuntimeFault (List Container) :=
  match Json.readShaped? (list summaryShape) text.toList with
  | some (.arr summaries) => .ok (summaries.map fun summary => (Summary.ofJson summary).container)
  | _ => .error .engine

private def counts (names : List String) : List Field :=
  names.map fun name => need name count

private def maybeCounts (names : List String) : List Field :=
  names.map fun name => may name count

private def cpuShape : Shape :=
  record [
    need "cpu_usage" (record (may "percpu_usage" (list count) ::
      counts ["usage_in_usermode", "total_usage", "usage_in_kernelmode"])),
    may "system_cpu_usage" count, may "online_cpus" count,
    need "throttling_data" (record (counts ["periods", "throttled_periods", "throttled_time"]))]

private def networkShape : Shape :=
  record (counts ["rx_dropped", "rx_bytes", "rx_errors", "tx_packets", "tx_dropped", "rx_packets",
    "tx_errors", "tx_bytes"])

private def blockShape : Shape :=
  let entries := list (record (need "op" text :: counts ["major", "minor", "value"]))
  record <|
    ["io_service_bytes_recursive", "io_serviced_recursive", "io_queue_recursive",
      "io_service_time_recursive", "io_wait_time_recursive", "io_merged_recursive",
      "io_time_recursive", "sectors_recursive"].map fun name => may name entries

private def memoryDetailShapeV1 : Shape :=
  record <| maybeCounts ["hierarchical_memsw_limit", "shmem", "total_shmem"] ++
    counts ["cache", "dirty", "mapped_file", "total_inactive_file", "pgpgout", "rss",
      "total_mapped_file", "pgpgin", "pgmajfault", "total_rss", "hierarchical_memory_limit",
      "total_pgfault", "total_active_file", "active_anon", "total_active_anon", "total_pgpgout",
      "total_cache", "total_dirty", "inactive_anon", "active_file", "pgfault", "inactive_file",
      "total_pgmajfault", "total_pgpgin", "rss_huge", "total_rss_huge", "total_inactive_anon",
      "total_unevictable", "total_writeback", "unevictable", "writeback"]

private def memoryDetailShapeV2 : Shape :=
  record <| counts ["anon", "file", "kernel_stack", "slab", "sock", "shmem", "file_mapped",
    "file_dirty", "file_writeback", "anon_thp", "inactive_anon", "active_anon", "inactive_file",
    "active_file", "unevictable", "slab_reclaimable", "slab_unreclaimable", "pgfault",
    "pgmajfault", "workingset_refault", "workingset_activate", "workingset_nodereclaim",
    "pgrefill", "pgscan", "pgsteal", "pgactivate", "pgdeactivate", "pglazyfree", "pglazyfreed",
    "thp_fault_alloc", "thp_collapse_alloc"]

private def memoryShape : Shape :=
  record (may "stats" (either memoryDetailShapeV1 memoryDetailShapeV2) ::
    maybeCounts ["max_usage", "usage", "failcnt", "limit", "commit", "commit_peak", "commitbytes",
      "commitpeakbytes", "privateworkingset"])

private def statsShape : Shape :=
  record [
    need "read" text, need "preread" text, need "num_procs" (natural (Bits.top 32)),
    need "pids_stats" (record (maybeCounts ["current", "limit"])), may "network" networkShape,
    may "networks" (table networkShape), need "memory_stats" memoryShape,
    need "blkio_stats" blockShape, need "cpu_stats" cpuShape, need "precpu_stats" cpuShape,
    need "storage_stats" (record (maybeCounts ["read_count_normalized", "read_size_bytes",
      "write_count_normalized", "write_size_bytes"])),
    ⟨"name", false, text⟩, ⟨"id", false, text⟩]

/-- The document that ends at the first line end of a text, or with the text. -/
private def firstDocument? (buffer : List Char) : Option Json :=
  Json.readShaped? statsShape (buffer.takeWhile (· != '\n'))

private def joinFirstLines (buffer : List Char) : List Char :=
  buffer.erase '\n'

/--
Reads the statistics of one container. A document ends at a line end; one that goes on over a single
line end is still read, and a text of line ends only holds none.
-/
def readStats (id : String) (text : String) : Except RuntimeFault Json :=
  let start := text.toList
  match firstDocument? start with
  | some document => .ok document
  | none =>
    let joined := joinFirstLines start
    match firstDocument? joined with
    | some document => .ok document
    | none => if (joinFirstLines joined).isEmpty then .error (.noStats id) else .error .engine

/-- A container engine by its answers; a body is missing where it knows nothing. -/
structure Engine where
  pingStatus : Nat
  listStatus : Nat
  list : String
  stats : List (String × String)

namespace Engine

def isReachable (engine : Engine) : Bool :=
  Http.isSuccess engine.pingStatus

def containers (engine : Engine) : Except RuntimeFault (List Container) :=
  if Http.isSuccess engine.listStatus then readList engine.list else .error .engine

def statsOf (engine : Engine) (id : String) : Except RuntimeFault Json :=
  match engine.stats.find? (·.1 == id) with
  | some (_, text) => readStats id text
  | none => .error .engine

end Engine
end CoreWatch.Container
