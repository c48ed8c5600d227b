import CoreWatch.Agent.Basic
import CoreWatch.Sampler.Round

set_option autoImplicit false

namespace CoreWatch.Agent

def hostOf (engine : Container.Engine) : Sampler.Host :=
  { list := .answered engine.containers false
    stats := fun id => .answered (engine.statsOf id) false }

def fetchAll (agent : Agent) (now : Moment)
    (exchange : Collector.Spec → Collector.Exchange) : Agent :=
  { agent with
    fleet := agent.fleet.specs.foldl
      (fun fleet spec => fleet.fetch spec.component now (exchange spec)) agent.fleet }

/-- Samples every container once, if there is an engine to ask. -/
def sampleAll (agent : Agent) (clock : String → Int) (now : Moment) : Agent :=
  match agent.engine with
  | none => agent
  | some engine =>
    let result := agent.sampler.sweep agent.topology (hostOf engine) false clock
    { agent with
      sampler := result.sampler
      health := Sampler.report agent.health result.outcome now }

def probeAll (agent : Agent) (now : Moment) (probe : Prober.Check → Prober.ProbeResult) : Agent :=
  { agent with
    prober := agent.prober.sweep agent.config.proberSettings.policy agent.topology probe now.seconds
    health := agent.health.setHealthy Part.prober.name now }

end CoreWatch.Agent
