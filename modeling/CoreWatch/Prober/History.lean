import CoreWatch.Http.Basic
import CoreWatch.Prober.Check

set_option autoImplicit false

namespace CoreWatch.Prober

inductive Condition
  | up
  | down
  /-- It answers, but not with success. -/
  | degraded
  | unknown
deriving DecidableEq, Repr

namespace Condition

def name : Condition → String
  | up => "up"
  | down => "down"
  | degraded => "degraded"
  | unknown => "unknown"

def ofName? (name : String) : Option Condition :=
  [up, down, degraded, unknown].find? (·.name == name)

def isFailure : Condition → Bool
  | down => true
  | degraded => true
  | _ => false

end Condition

/-- Why a probe does not find a component up. -/
inductive ProbeFault
  /-- The page could not be asked for. -/
  | request (cause : String)
  | badStatus (status : Nat)
  | connection (endpoint cause : String)
  | silence (endpoint : String)
deriving DecidableEq, Repr

namespace ProbeFault

def message : ProbeFault → String
  | request cause => "HTTP request failed: " ++ cause
  | badStatus status => "unexpected status code " ++ toString status
  | connection endpoint cause => "TCP connection to " ++ endpoint ++ " failed: " ++ cause
  | silence endpoint => "no response from " ++ endpoint ++ " within timeout"

/-- Whether the component answered at all decides between degraded and down. -/
def condition : ProbeFault → Condition
  | badStatus _ => .degraded
  | _ => .down

end ProbeFault

/-- How the other side meets a check; a cause is what the network has to say about it. -/
inductive Encounter
  /-- There is no connection. -/
  | refused (cause : String)
  /-- Nothing is heard within the timeout. -/
  | silent (cause : String)
  /-- There is a connection, over which no page comes. -/
  | connected (cause : String)
  | answered (status : Nat)
deriving DecidableEq, Repr

/-- What is wrong with a component by the way in which its check is met. -/
def Check.fault? (check : Check) (encounter : Encounter) : Option ProbeFault :=
  match check.kind, encounter with
  | .http, .answered status => if Http.isSuccess status then none else some (.badStatus status)
  | .http, .refused cause => some (.request cause)
  | .http, .silent cause => some (.request cause)
  | .http, .connected cause => some (.request cause)
  | .tcp, .refused cause => some (.connection check.endpoint cause)
  | .tcp, .silent _ => some (.silence check.endpoint)
  | .tcp, _ => none

structure ProbeResult where
  condition : Condition
  responseMillis : Double
  error : Option String

def ProbeResult.ofOutcome (fault : Option ProbeFault) (responseMillis : Double) : ProbeResult :=
  match fault with
  | none => ⟨.up, responseMillis, none⟩
  | some fault => ⟨fault.condition, responseMillis, some fault.message⟩

structure History where
  component : String
  condition : Condition
  responseMillis : Double
  lastCheck : Int
  error : Option String
  endpoint : String
  kind : Option CheckKind
  /-- How many probes have failed since the last one that did not. -/
  failuresInARow : Nat
  checks : Nat
  successes : Nat
  /-- The share of successes in percent. -/
  successRate : Double

def percentage (part whole : Nat) : Double :=
  .mul (.div (.ofNat part) (.ofNat whole)) (.ofNat 100)

namespace History

def unknown (component : String) : History :=
  { component
    condition := .unknown
    responseMillis := .zero false
    lastCheck := 0
    error := none
    endpoint := ""
    kind := none
    failuresInARow := 0
    checks := 0
    successes := 0
    successRate := .zero false }

def record (history : History) (check : Check) (result : ProbeResult) (now : Int) : History :=
  let checks := history.checks + 1
  let failed := result.condition.isFailure
  let successes := if failed then history.successes else history.successes + 1
  { history with
    condition := result.condition
    responseMillis := result.responseMillis
    lastCheck := now
    error := result.error
    endpoint := check.endpoint
    kind := some check.kind
    failuresInARow := if failed then history.failuresInARow + 1 else 0
    checks
    successes
    successRate := percentage successes checks }

def toJson (history : History) : Json :=
  .object <|
    [("component_id", .str history.component),
      ("name", .str history.component),
      ("status", .str history.condition.name),
      ("response_time_ms", .real history.responseMillis),
      ("last_check", .int history.lastCheck),
      ("endpoint", .str history.endpoint),
      ("consecutive_failures", .nat history.failuresInARow),
      ("total_checks", .nat history.checks),
      ("successful_checks", .nat history.successes),
      ("success_rate", .real history.successRate)] ++
    Json.optionalMember "error_message" .str history.error ++
    Json.optionalMember "check_type" (.str ·.name) history.kind

end History

structure Summary where
  total : Nat
  up : Nat
  down : Nat
  degraded : Nat
  unknown : Nat
  /-- The share of components that are up, in percent. -/
  upShare : Double
  /-- The mean over all components that have been probed. -/
  meanResponseMillis : Double

namespace Summary

def ofHistories (histories : List History) : Summary :=
  let count (condition : Condition) : Nat :=
    (histories.filter (·.condition = condition)).length
  let probed := histories.filter (·.checks > 0)
  let responses : Double :=
    probed.foldl (fun sum history => .add sum history.responseMillis) (.zero false)
  { total := histories.length
    up := count .up
    down := count .down
    degraded := count .degraded
    unknown := count .unknown
    upShare := if histories.isEmpty then .zero false else percentage (count .up) histories.length
    meanResponseMillis :=
      if probed.isEmpty then .zero false else .div responses (.ofNat probed.length) }

def toJson (summary : Summary) : Json :=
  .object [
    ("total", .nat summary.total),
    ("up", .nat summary.up),
    ("down", .nat summary.down),
    ("degraded", .nat summary.degraded),
    ("unknown", .nat summary.unknown),
    ("health_percentage", .real summary.upShare),
    ("avg_response_time_ms", .real summary.meanResponseMillis)]

end Summary
end CoreWatch.Prober
