import CoreWatch.Collector.Registry
import CoreWatch.Health
import CoreWatch.SelfMetrics
import CoreWatch.Time.Moment

set_option autoImplicit false

namespace CoreWatch

structure Collector.Spec where
  component : String
  function : NetworkFunction
  port : Nat
  address : String
  sourcePort : Nat
deriving DecidableEq, Repr

def Collector.Spec.sourceUrl (spec : Collector.Spec) : String :=
  "http://" ++ spec.address ++ ":" ++ toString spec.sourcePort ++ "/metrics"

structure Collector.Settings where
  fetchInterval : Span := .ofSeconds 5
  fetchTimeout : Span := .ofSeconds 10
  /-- How old the last success may be before the collector is unhealthy. -/
  staleAfter : Span := .ofSeconds 30
  shutdownGrace : Span := .ofSeconds 5
  bindHost : String := "0.0.0.0"
deriving DecidableEq, Repr

structure Collector.FetchStatus where
  lastSuccess : Option Moment := none
  lastAttempt : Option Moment := none
  /-- What was wrong with the last attempt. -/
  lastError : Option String := none
  fetchCount : Nat := 0
  failureCount : Nat := 0
  metricCount : Nat := 0
  seriesCount : Nat := 0
deriving DecidableEq, Repr

namespace Collector.FetchStatus

def success (status : FetchStatus) (now : Moment) (metricCount seriesCount : Nat) : FetchStatus :=
  { status with
    lastSuccess := some now
    lastAttempt := some now
    lastError := none
    fetchCount := status.fetchCount + 1
    metricCount
    seriesCount }

def failure (status : FetchStatus) (now : Moment) (error : String) : FetchStatus :=
  { status with
    lastAttempt := some now
    lastError := some error
    fetchCount := status.fetchCount + 1
    failureCount := status.failureCount + 1 }

/-- The time since the last success, or since the start when there was none. -/
def age (status : FetchStatus) (startedAt now : Moment) : Span :=
  now.since (status.lastSuccess.getD startedAt)

/--
The health that fetches show: unhealthy once the last success is too old, healthy while the last
attempt succeeded no longer than two intervals ago, and degraded between. There is no answer when it
hangs on a doubled interval that cannot be held.
-/
def health? (status : FetchStatus) (startedAt now : Moment) (settings : Settings) :
    Option Health :=
  let age := status.age startedAt now
  if settings.staleAfter.nanos < age.nanos then some .unhealthy
  else if status.lastSuccess.isSome && status.lastError.isNone then
    settings.fetchInterval.twice?.map fun fresh =>
      if age.nanos ≤ fresh.nanos then .healthy else .degraded
  else some .degraded

end Collector.FetchStatus

structure Collector where
  spec : Collector.Spec
  settings : Collector.Settings
  startedAt : Moment
  status : Collector.FetchStatus
  registry : Collector.Registry

structure Collector.Record where
  spec : Collector.Spec
  startedAt : Moment
  status : Collector.FetchStatus
  health : Health

namespace Collector

def start (spec : Spec) (settings : Settings) (now : Moment) : Collector :=
  ⟨spec, settings, now, {}, .empty spec.component spec.function⟩

def health? (collector : Collector) (now : Moment) : Option Health :=
  collector.status.health? collector.startedAt now collector.settings

def record? (collector : Collector) (now : Moment) : Option Record :=
  (collector.health? now).map fun health =>
    ⟨collector.spec, collector.startedAt, collector.status, health⟩

def tally (collector : Collector) : Tally :=
  (Tally.zero.add .fetchLatency collector.status.fetchCount).add .fetchErrors
    collector.status.failureCount

end Collector
end CoreWatch
