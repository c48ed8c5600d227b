import CoreWatch.Config.Source
import CoreWatch.Fleet.Basic
import CoreWatch.Prober.Sweep
import CoreWatch.Sampler.Sweep

set_option autoImplicit false

namespace CoreWatch

/-- What the monitor goes by; lengths of time are whole seconds. -/
structure Config where
  /-- The name under which the monitor logs. -/
  instanceName : String
  apiPort : Nat := 9000
  discoverySeconds : Nat := 10
  fetchSeconds : Nat := 5
  fetchTimeoutSeconds : Nat := 10
  staleSeconds : Nat := 30
  sourcePort : Nat := 9090
  samplerPort : Nat := 8080
  samplerSeconds : Nat := 10
  proberPort : Nat := 8081
  proberSeconds : Nat := 15
  probeTimeoutSeconds : Nat := 5
  managementPort : Nat := 8080
  /-- Where the scrape document goes, if anywhere. -/
  scrapePath : Option String := none
  advertiseHost : String := "localhost"
  graceSeconds : Nat := 5
  /-- The file that tells the topology in the place of the container runtime. -/
  topologyPath : Option String := none
  /-- Markers of the images whose containers count, with commas between them. -/
  imageFilter : String := ""
deriving DecidableEq, Repr

inductive ConfigFault
  /-- The file cannot be read. -/
  | unreadable
  /-- A setting is not of the kind that its field takes. -/
  | mismatch
  /-- A length of time that must not be zero is zero. -/
  | zero (key : String)
deriving DecidableEq, Repr

def ConfigFault.message : ConfigFault → String
  | unreadable => "Failed to read configuration sources"
  | mismatch => "Invalid monitor configuration"
  | zero key => "Invalid monitor configuration: " ++ key ++ " must be greater than zero"

namespace Config

/-- The configuration that settings describe; fields without a setting keep their defaults. -/
def ofSettings? (instanceName : String) (settings : Settings) : Option Config := do
  let base : Config := { instanceName }
  let field {α : Type} (take : Setting → Option α) (key : String) (default : α) : Option α :=
    match settings.get? key with
    | some setting => take setting
    | none => some default
  let count := field Setting.count?
  let port := field Setting.port?
  let text := field Setting.text?
  let optional := field Setting.optionalText?
  return {
    instanceName := ← text "instance" base.instanceName
    apiPort := ← port "api_port" base.apiPort
    discoverySeconds := ← count "discovery_interval_secs" base.discoverySeconds
    fetchSeconds := ← count "fetch_interval_secs" base.fetchSeconds
    fetchTimeoutSeconds := ← count "fetch_timeout_secs" base.fetchTimeoutSeconds
    staleSeconds := ← count "stale_after_secs" base.staleSeconds
    sourcePort := ← port "upstream_metrics_port" base.sourcePort
    samplerPort := ← port "sampler_port" base.samplerPort
    samplerSeconds := ← count "sampler_interval_secs" base.samplerSeconds
    proberPort := ← port "prober_port" base.proberPort
    proberSeconds := ← count "prober_interval_secs" base.proberSeconds
    probeTimeoutSeconds := ← count "probe_timeout_secs" base.probeTimeoutSeconds
    managementPort := ← port "management_port" base.managementPort
    scrapePath := ← optional "scrape_config_path" base.scrapePath
    advertiseHost := ← text "advertise_host" base.advertiseHost
    graceSeconds := ← count "shutdown_grace_secs" base.graceSeconds
    topologyPath := ← optional "topology_file" base.topologyPath
    imageFilter := ← text "image_filter" base.imageFilter }

def periods (config : Config) : List (String × Nat) :=
  [("discovery_interval_secs", config.discoverySeconds),
    ("fetch_interval_secs", config.fetchSeconds),
    ("fetch_timeout_secs", config.fetchTimeoutSeconds),
    ("stale_after_secs", config.staleSeconds),
    ("sampler_interval_secs", config.samplerSeconds),
    ("prober_interval_secs", config.proberSeconds),
    ("probe_timeout_secs", config.probeTimeoutSeconds)]

def zeroPeriod? (config : Config) : Option String :=
  (config.periods.find? (·.2 = 0)).map (·.1)

def fileVariable : String := "NFMON_CONFIG_FILE"

/-- The variable that names the host, and with it the instance. -/
def hostVariable : String := "HOSTNAME"

/-- The settings of all sources, those that win last. -/
def settings? (environment : Environment) (readFile : String → Option (List UInt8)) :
    Option Settings :=
  match environment.get? fileVariable with
  | none => some environment.settings
  | some path => (fileSettings? path (readFile path)).map (· ++ environment.settings)

def load (environment : Environment) (readFile : String → Option (List UInt8)) :
    Except ConfigFault Config :=
  match settings? environment readFile with
  | none => .error .unreadable
  | some settings =>
    match ofSettings? ((environment.get? hostVariable).getD "nfmon") settings with
    | none => .error .mismatch
    | some config =>
      match config.zeroPeriod? with
      | some key => .error (.zero key)
      | none => .ok config

def imageMarkers (config : Config) : List String :=
  (((Text.splitOn ',' config.imageFilter.toList).map Text.trim).filter (!·.isEmpty)).map
    String.ofList

def shutdownGrace (config : Config) : Span :=
  .ofSeconds config.graceSeconds

def discoveryInterval (config : Config) : Span :=
  .ofSeconds config.discoverySeconds

def collectorSettings (config : Config) : Collector.Settings :=
  { fetchInterval := .ofSeconds config.fetchSeconds
    fetchTimeout := .ofSeconds config.fetchTimeoutSeconds
    staleAfter := .ofSeconds config.staleSeconds
    shutdownGrace := config.shutdownGrace }

/-- How long the fleet waits for stopped collectors: a second more than they take themselves. -/
def stopGrace? (config : Config) : Option Span :=
  config.shutdownGrace.add? (.ofSeconds 1)

def scrapeSettings (config : Config) : Scrape.Settings :=
  { path := config.scrapePath
    advertiseHost := config.advertiseHost
    collectorInterval := .ofSeconds config.fetchSeconds
    samplerPort := config.samplerPort
    samplerInterval := .ofSeconds config.samplerSeconds
    proberPort := config.proberPort
    proberInterval := .ofSeconds config.proberSeconds }

/-- The settings of the fleet, unless its grace is too long to be held. -/
def fleetSettings? (config : Config) : Option Fleet.Settings :=
  config.stopGrace?.map fun stopGrace =>
    { sourcePort := config.sourcePort
      stopGrace
      scrape := config.scrapeSettings }

def samplerSettings (config : Config) : Sampler.Settings :=
  { interval := .ofSeconds config.samplerSeconds
    port := config.samplerPort
    shutdownGrace := config.shutdownGrace }

def proberSettings (config : Config) : Prober.Settings :=
  { interval := .ofSeconds config.proberSeconds
    port := config.proberPort
    shutdownGrace := config.shutdownGrace
    policy :=
      { managementPort := config.managementPort
        timeout := .ofSeconds config.probeTimeoutSeconds } }

end Config
end CoreWatch
