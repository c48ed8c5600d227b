import CoreWatch.Collector.Basic
import CoreWatch.Exposition.Payload
import CoreWatch.Http.Basic

set_option autoImplicit false

namespace CoreWatch.Collector

/-- A reply as the client gives it: the text of its body, or why that cannot be read. -/
structure Reply where
  status : Nat
  body : Except String String

abbrev Exchange := Except String Reply

inductive FetchFault
  /-- There was no reply, or it broke off. -/
  | unanswered (cause : String)
  | badStatus (status : Nat)
deriving DecidableEq, Repr

def FetchFault.message (url : String) : FetchFault → String
  | unanswered cause => "request to " ++ url ++ " failed: " ++ cause
  | badStatus status => url ++ " returned HTTP " ++ toString status

def received (exchange : Exchange) : Except FetchFault String := do
  let reply ← exchange.mapError .unanswered
  if Http.isSuccess reply.status then reply.body.mapError .unanswered
  else .error (.badStatus reply.status)

/-- Takes in the outcome of one fetch; after a failure the last known values stay. -/
def fetch (collector : Collector) (now : Moment) (exchange : Exchange) : Collector :=
  match received exchange with
  | .ok text =>
    let registry := collector.registry.ingest (Exposition.samples text)
    { collector with
      registry
      status := collector.status.success now registry.familyCount registry.seriesCount }
  | .error fault =>
    { collector with
      status := collector.status.failure now (fault.message collector.spec.sourceUrl) }

end CoreWatch.Collector
