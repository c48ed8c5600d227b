import CoreWatch.Collector.Fetch
import CoreWatch.NetworkFunction.Profile

set_option autoImplicit false

namespace CoreWatch.Collector

open Http

namespace Record

def toMembers (record : Record) : List (String × Json) :=
  [("component_name", .str record.spec.component),
    ("nf_type", .str record.spec.function.name),
    ("assigned_port", .nat record.spec.port),
    ("upstream_address", .str record.spec.address),
    ("upstream_port", .nat record.spec.sourcePort),
    ("upstream_url", .str record.spec.sourceUrl),
    ("health", .str record.health.name),
    ("started_at", record.startedAt.toJson),
    ("last_successful_fetch", .ofOption Moment.toJson record.status.lastSuccess),
    ("last_attempt", .ofOption Moment.toJson record.status.lastAttempt),
    ("last_error", .ofOption .str record.status.lastError),
    ("fetch_count", .nat record.status.fetchCount),
    ("failure_count", .nat record.status.failureCount),
    ("metrics_count", .nat record.status.metricCount),
    ("series_count", .nat record.status.seriesCount)]

def toJson (record : Record) : Json :=
  .object record.toMembers

end Record

def FetchStatus.toJson (status : FetchStatus) : Json :=
  .object [
    ("last_success", .ofOption Moment.toJson status.lastSuccess),
    ("last_attempt", .ofOption Moment.toJson status.lastAttempt),
    ("last_error", .ofOption .str status.lastError),
    ("fetch_count", .nat status.fetchCount),
    ("failure_count", .nat status.failureCount),
    ("metrics_count", .nat status.metricCount),
    ("series_count", .nat status.seriesCount)]

def metricsPage (collector : Collector) : Response :=
  match collector.registry.encode with
  | .ok text => ⟨200, some Exposition.contentType, .text text⟩
  | .error fault => .plain 500 fault.message

/-- Unhealthy collectors answer that they are unavailable. -/
def healthPage (record : Record) : Response :=
  .ofJson (if record.health = .unhealthy then 503 else 200) <| .object [
    ("status", .str record.health.name),
    ("nf_type", .str record.spec.function.name),
    ("component", .str record.spec.component),
    ("upstream", .str record.spec.sourceUrl),
    ("last_update", .ofOption Moment.toJson record.status.lastSuccess),
    ("last_fetch_error", .ofOption .str record.status.lastError),
    ("metrics_count", .nat record.status.metricCount),
    ("series_count", .nat record.status.seriesCount),
    ("fetch_count", .nat record.status.fetchCount),
    ("failure_count", .nat record.status.failureCount)]

def dashboardPage (record : Record) (now : Moment) : Response :=
  .ofJson 200 <| .object [
    ("component_id", .str record.spec.component),
    ("nf_type", .str record.spec.function.name),
    ("profile", record.spec.function.profile.toJson),
    ("real_time_status", .object [
      ("health", .str record.health.name),
      ("metrics_count", .nat record.status.metricCount),
      ("series_count", .nat record.status.seriesCount),
      ("last_update", .ofOption Moment.toJson record.status.lastSuccess),
      ("last_error", .ofOption .str record.status.lastError),
      ("uptime_seconds", .nat (now.since record.startedAt).seconds)]),
    ("endpoints", .object [
      ("metrics", .str "/metrics"),
      ("health", .str "/health"),
      ("raw", .str "/debug/raw"),
      ("config", .str "/config")])]

def rawPage (collector : Collector) (exchange : Exchange) : Response :=
  let url := collector.spec.sourceUrl
  match exchange with
  | .error cause => .plain 502 ("failed to reach upstream " ++ url ++ ": " ++ cause)
  | .ok reply =>
    match reply.body with
    | .ok text => .plain reply.status text
    | .error cause => .plain 502 ("failed to read upstream body from " ++ url ++ ": " ++ cause)

def configPage (collector : Collector) : Response :=
  .ofJson 200 <| .object [
    ("component_id", .str collector.spec.component),
    ("nf_type", .str collector.spec.function.name),
    ("port", .nat collector.spec.port),
    ("upstream_url", .str collector.spec.sourceUrl),
    ("fetch_interval_secs", .real collector.settings.fetchInterval.toDouble),
    ("fetch_timeout_secs", .real collector.settings.fetchTimeout.toDouble),
    ("stale_after_secs", .real collector.settings.staleAfter.toDouble),
    ("started_at", collector.startedAt.toJson)]

def rawPath : String := "/debug/raw"

/-- The page of a path; `raw` is what comes of asking the network function, if it has to be. -/
def page (collector : Collector) (now : Moment) (raw : Exchange) (path : String) :
    Option (Option Response) :=
  match path with
  | "/metrics" => some collector.metricsPage
  | "/health" => some ((collector.record? now).map healthPage)
  | "/dashboard" => some ((collector.record? now).map fun record => dashboardPage record now)
  | "/config" => some collector.configPage
  | path => if path == rawPath then some (collector.rawPage raw) else none

end CoreWatch.Collector
