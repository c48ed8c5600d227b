import CoreWatch.Exposition.Family
import CoreWatch.Http.Basic
import CoreWatch.Sampler.Sweep
import CoreWatch.Time.Moment

set_option autoImplicit false

namespace CoreWatch.Sampler

open Exposition Http

/-- The start of an id by which containers are commonly known. -/
def shortId (id : String) : String :=
  String.ofList (id.toList.take 12)

/-- The labels of a container's series; a component that is known adds its own. -/
def seriesLabels (topology : Topology) (usage : Container.Usage) : List Label :=
  let own : List Label := [⟨"container_name", usage.name⟩, ⟨"container_id", shortId usage.id⟩]
  match topology.get? usage.name with
  | none => own
  | some component =>
    own ++ [⟨"component_type", component.type⟩, ⟨"deployment_type", topology.deployment.name⟩,
      ⟨"component_ip", component.address⟩]

def measures : List (Measure Container.Usage) :=
  [⟨"container_cpu_usage_percent", "Container CPU usage percentage", .gauge, (·.cpuPercent)⟩,
   ⟨"container_memory_usage_bytes", "Container memory usage in bytes", .gauge,
    (.ofNat ·.memoryUsage)⟩,
   ⟨"container_memory_limit_bytes", "Container memory limit in bytes", .gauge,
    (.ofNat ·.memoryLimit)⟩,
   ⟨"container_memory_usage_percent", "Container memory usage percentage", .gauge,
    (·.memoryPercent)⟩,
   ⟨"container_network_rx_bytes", "Container network received bytes", .counter,
    (.ofNat ·.received)⟩,
   ⟨"container_network_tx_bytes", "Container network transmitted bytes", .counter,
    (.ofNat ·.sent)⟩,
   ⟨"container_block_read_bytes", "Container block device read bytes", .counter,
    (.ofNat ·.blockRead)⟩,
   ⟨"container_block_write_bytes", "Container block device write bytes", .counter,
    (.ofNat ·.blockWritten)⟩,
   ⟨"container_pids", "Container process count", .gauge, (.ofNat ·.processes)⟩]

def families (sampler : Sampler) (topology : Topology) : List Family :=
  sheet measures (seriesLabels topology) sampler.usages.values

def metricsPage (sampler : Sampler) (topology : Topology) : Response :=
  match encode (sampler.families topology) with
  | .ok text => ⟨200, some contentType, .text text⟩
  | .error fault => .plain 500 fault.message

def healthPage (sampler : Sampler) (now : Moment) : Response :=
  .ofJson 200 <| .object [
    ("status", .str "healthy"),
    ("timestamp", .int now.seconds),
    ("containers_monitored", .nat sampler.usages.size)]

def page (sampler : Sampler) (topology : Topology) (now : Moment) (path : String) :
    Option (Option Response) :=
  match path with
  | "/container/metrics" => some (sampler.metricsPage topology)
  | "/health" => some (sampler.healthPage now)
  | _ => none

end CoreWatch.Sampler
