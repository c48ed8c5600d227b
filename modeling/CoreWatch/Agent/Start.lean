import CoreWatch.Agent.Basic
import CoreWatch.Fleet.Discovery
import CoreWatch.Topology.File

set_option autoImplicit false

namespace CoreWatch.Agent

structure Surroundings where
  environment : Config.Environment
  readFile : String → Option (List UInt8)
  engine : Option Container.Engine
  /-- The ports that others hold. -/
  occupied : List Nat
  /-- What the system says of a port that another one holds. -/
  bindFault : String
  /-- Whether the scrape document can be written. -/
  writes : Scrape.Document → Bool

inductive StartFault
  | config (fault : ConfigFault)
  | noEngine
  | noTopology
  /-- The time that the fleet waits for its collectors cannot be held. -/
  | overlongGrace
  | samplerPort
  | proberPort
deriving DecidableEq, Repr

namespace StartFault

def message : StartFault → String
  | config fault => fault.message
  | noEngine => "Failed to connect to the container runtime"
  | noTopology => "Failed to read the initial topology"
  | overlongGrace => "overflow when adding durations"
  | samplerPort => "Failed to start resource sampler"
  | proberPort => "Failed to start health prober"

/-- The report of the step that failed; an overflow is not reported as a step. -/
def report? : StartFault → Option String
  | overlongGrace => none
  | fault => some ("Error: " ++ fault.message)

def exitCode : StartFault → Nat
  | overlongGrace => 101
  | _ => 1

end StartFault

structure Start where
  /-- The name under which the events are logged. -/
  instanceName : String
  events : List Event
  /-- The scrape document that was to be written. -/
  attempt : Option Scrape.Document
  result : Except StartFault Agent

def Start.refused (fault : StartFault) : Start :=
  ⟨"", [], none, .error fault⟩

/-- Whether a server can take a port; 0 stands for any free one. -/
def isFree (taken : List Nat) (port : Nat) : Bool :=
  port = 0 || !taken.contains port

def Surroundings.launcher (surroundings : Surroundings) (settings : Collector.Settings) :
    Fleet.Launcher :=
  fun spec =>
    if isFree surroundings.occupied spec.port then .ok { port := spec.port, settings }
    else
      .error ("failed to bind collector port " ++ toString spec.port ++ ": " ++
        surroundings.bindFault)

/-- The topology at the start. A file that tells it comes before the container engine. -/
def Surroundings.topology? (surroundings : Surroundings) (config : Config)
    (engine : Option Container.Engine) : Option Topology :=
  match config.topologyPath with
  | some path => (Topology.ofFile (surroundings.readFile path)).toOption
  | none =>
    (engine.bind fun engine => engine.containers.toOption).map
      (Topology.ofContainers config.imageMarkers)

def initialHealth (outcome : Fleet.Outcome) (hasEngine : Bool) (now : Moment) : SelfHealth :=
  let registered :=
    Part.all.foldl (fun health part => health.register part.name now) SelfHealth.empty
  let reported := Discovery.reportPass registered outcome now
  if hasEngine then reported
  else reported.setDegraded Part.sampler.name "container runtime unavailable" now

/-- Opens the servers one after another; the pages about the agent itself may stay closed. -/
def openServers (occupied : List Nat) (agent : Agent) : Except StartFault Agent :=
  let config := agent.config
  let taken := agent.fleet.ports ++ occupied
  let withSampler := if agent.engine.isSome then config.samplerPort :: taken else taken
  if agent.engine.isSome && !isFree taken config.samplerPort then .error .samplerPort
  else if !isFree withSampler config.proberPort then .error .proberPort
  else .ok { agent with servesAdmin := isFree (config.proberPort :: withSampler) config.apiPort }

def begin (surroundings : Surroundings) (config : Config) (settings : Fleet.Settings)
    (engine : Option Container.Engine) (topology : Topology) (now : Moment) : Start :=
  let pass := (Fleet.empty settings).reconcile
    (surroundings.launcher config.collectorSettings) surroundings.writes now topology
  let result := openServers surroundings.occupied
    { config
      topology
      fleet := pass.fleet
      health := (initialHealth pass.outcome engine.isSome now).setReady true
      engine
      sampler := .empty
      prober := .empty
      servesAdmin := false }
  { instanceName := config.instanceName
    events := pass.events ++
      match result with
      | .ok _ => [.monitorStarted topology.size]
      | .error _ => []
    attempt := pass.attempt
    result }

def start (surroundings : Surroundings) (now : Moment) : Start :=
  match Config.load surroundings.environment surroundings.readFile with
  | .error fault => .refused (.config fault)
  | .ok config =>
    let engine := surroundings.engine.filter (·.isReachable)
    if engine.isNone && config.topologyPath.isNone then .refused .noEngine
    else
      match surroundings.topology? config engine, config.fleetSettings? with
      | none, _ => .refused .noTopology
      | some _, none => .refused .overlongGrace
      | some topology, some settings => begin surroundings config settings engine topology now

inductive Signal
  | terminate
  | interrupt
deriving DecidableEq, Repr

def Signal.reason : Signal → String
  | terminate => "SIGTERM received"
  | interrupt => "SIGINT received"

def shutdown (agent : Agent) (signal : Signal) : List Event :=
  .monitorShutdown signal.reason :: agent.fleet.shutdown.2

end CoreWatch.Agent
