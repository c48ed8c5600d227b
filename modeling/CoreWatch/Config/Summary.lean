import CoreWatch.Config.Basic

set_option autoImplicit false

namespace CoreWatch.Config

inductive TimeUnit
  | seconds
  | millis
deriving DecidableEq, Repr

/-- A member for a length of time; milliseconds are told by the key. -/
def TimeUnit.member (unit : TimeUnit) (key : String) (span : Span) : String × Json :=
  match unit with
  | seconds => (key, .nat span.seconds)
  | millis => (key ++ "_ms", .nat span.millis)

structure PartSettings where
  collector : Collector.Settings := {}
  fleet : Fleet.Settings := {}
  sampler : Sampler.Settings := {}
  prober : Prober.Settings := {}

/-- The settings of the parts, unless the grace of the fleet is too long to be held. -/
def partSettings? (config : Config) : Option PartSettings :=
  config.fleetSettings?.map fun fleet =>
    ⟨config.collectorSettings, fleet, config.samplerSettings, config.proberSettings⟩

private def collectorMembers (unit : TimeUnit) (settings : Collector.Settings) :
    List (String × Json) :=
  [("bind_host", .str settings.bindHost),
    unit.member "fetch_interval" settings.fetchInterval,
    unit.member "fetch_timeout" settings.fetchTimeout,
    unit.member "stale_after" settings.staleAfter,
    unit.member "shutdown_grace" settings.shutdownGrace]

def fleetMembers (unit : TimeUnit) (settings : Fleet.Settings) : List (String × Json) :=
  let scrape := settings.scrape
  [("upstream_metrics_port", .nat settings.sourcePort),
    unit.member "stop_grace" settings.stopGrace,
    ("path", .ofOption .str scrape.path),
    ("advertise_host", .str scrape.advertiseHost),
    unit.member "collector_interval" scrape.collectorInterval,
    ("sampler_port", .nat scrape.samplerPort),
    unit.member "sampler_interval" scrape.samplerInterval,
    ("prober_port", .nat scrape.proberPort),
    unit.member "prober_interval" scrape.proberInterval,
    ("monitor_label", .str scrape.monitorLabel)]

private def samplerMembers (unit : TimeUnit) (settings : Sampler.Settings) :
    List (String × Json) :=
  [unit.member "interval" settings.interval,
    ("port", .nat settings.port),
    unit.member "shutdown_grace" settings.shutdownGrace]

private def proberMembers (unit : TimeUnit) (settings : Prober.Settings) : List (String × Json) :=
  [unit.member "interval" settings.interval,
    ("port", .nat settings.port),
    unit.member "shutdown_grace" settings.shutdownGrace,
    ("management_port", .nat settings.policy.managementPort),
    ("web_port", .nat settings.policy.webPort),
    unit.member "timeout" settings.policy.timeout]

namespace PartSettings

def toJson (settings : PartSettings) : Json :=
  .object [
    ("collector", .object (collectorMembers .millis settings.collector)),
    ("orchestrator", .object (fleetMembers .millis settings.fleet)),
    ("sampler", .object <|
      ("bind_host", .str settings.sampler.bindHost) :: samplerMembers .millis settings.sampler),
    ("prober", .object <|
      ("bind_host", .str settings.prober.bindHost) :: proberMembers .millis settings.prober)]

end PartSettings

def toJson? (config : Config) : Option Json :=
  config.partSettings?.map fun settings =>
    .object [
      ("instance", .str config.instanceName),
      ("api_port", .nat config.apiPort),
      ("discovery_interval_secs", .nat config.discoverySeconds),
      ("upstream_metrics_port", .nat config.sourcePort),
      ("topology_file", .ofOption .str config.topologyPath),
      ("image_filter", .str config.imageFilter),
      ("image_markers", .strings config.imageMarkers),
      ("shutdown_grace_secs", .nat config.graceSeconds),
      ("collector", .object (collectorMembers .seconds settings.collector)),
      ("orchestrator", .object (fleetMembers .seconds settings.fleet)),
      ("sampler", .object (samplerMembers .seconds settings.sampler)),
      ("prober", .object (proberMembers .seconds settings.prober))]

end CoreWatch.Config
