import CoreWatch.Sampler.Sweep
import CoreWatch.SelfHealth

set_option autoImplicit false

namespace CoreWatch.Sampler

/-- Reports a sweep; one that was told to stop ends the rounds without a report. -/
def report (health : SelfHealth) (outcome : Except SweepFault Nat) (now : Moment) : SelfHealth :=
  match outcome with
  | .ok _ => health.setHealthy Part.sampler.name now
  | .error .cancelled => health
  | .error fault => health.setDegraded Part.sampler.name fault.message now

def SweepResult.continues (result : SweepResult) : Bool :=
  !result.stopped && match result.outcome with
    | .error .cancelled => false
    | _ => true

/-- The rounds of a sampler: what it had, and what it had reported, before each sweep. -/
def rounds (topology : Topology) (clock : String → Int) (now : Moment) :
    List Host → Sampler → SelfHealth → List (Sampler × SelfHealth)
  | [], sampler, health => [(sampler, health)]
  | host :: hosts, sampler, health =>
    let result := sampler.sweep topology host false clock
    let rest :=
      if result.continues then
        rounds topology clock now hosts result.sampler (report health result.outcome now)
      else []
    (sampler, health) :: rest

end CoreWatch.Sampler
