import CoreWatch.Admin.Pages
import CoreWatch.Config.Basic
import CoreWatch.Containers.Engine
import CoreWatch.Prober.Pages
import CoreWatch.Sampler.Pages

set_option autoImplicit false

namespace CoreWatch

structure Agent where
  config : Config
  topology : Topology
  fleet : Fleet
  health : SelfHealth
  /-- The container engine; without it there is no sampler. -/
  engine : Option Container.Engine
  sampler : Sampler
  prober : Prober
  /-- Whether the agent serves the pages about itself. -/
  servesAdmin : Bool

inductive Agent.Server
  | collector (collector : Collector)
  | sampler
  | prober
  | admin

namespace Agent

/-- The server that holds a port. Port 0 stands for some free port, which nobody knows. -/
def serverAt? (agent : Agent) (port : Nat) : Option Server :=
  if port = 0 then none
  else
    match agent.fleet.members.values.find? (·.spec.port = port) with
    | some member => some (.collector member.collector)
    | none =>
      if agent.engine.isSome && port = agent.config.samplerPort then some .sampler
      else if port = agent.config.proberPort then some .prober
      else if agent.servesAdmin && port = agent.config.apiPort then some .admin
      else none

def tally (agent : Agent) : Tally :=
  let collectors := agent.fleet.members.values.map (·.collector.tally)
  collectors.foldl Tally.plus (agent.fleet.tally.plus (agent.sampler.tally.plus agent.prober.tally))

/-- The page of a path on one of the servers; `raw` is what a collector gets that asks again. -/
def page (agent : Agent) (now : Moment) (raw : Collector.Exchange) (path : String) :
    Server → Option (Option Http.Response)
  | .collector collector => collector.page now raw path
  | .sampler => agent.sampler.page agent.topology now path
  | .prober => agent.prober.page agent.config.proberSettings.interval agent.topology now path
  | .admin => Admin.page agent.fleet agent.health agent.tally now path

/-- The answer to a request to a port; nothing when nobody listens there. -/
def answer (agent : Agent) (now : Moment) (raw : Collector.Exchange) (port : Nat)
    (request : Http.Request) : Option Http.Response :=
  (agent.serverAt? port).bind fun server =>
    Http.respond request (agent.page now raw request.path server)

end Agent
end CoreWatch
