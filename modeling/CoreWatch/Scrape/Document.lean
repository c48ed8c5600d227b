import CoreWatch.Scrape.Target
import CoreWatch.Yaml.Node

set_option autoImplicit false

namespace CoreWatch.Scrape

structure Document where
  targets : List Target
  deployment : Option Deployment
  monitorLabel : String
deriving DecidableEq, Repr

namespace Document

open Yaml

def labelNode (labels : List (String × String)) : Node :=
  .record (labels.map fun (name, value) => (name, .scalar value))

def externalLabels (document : Document) : List (String × String) :=
  (match document.deployment with
    | none => []
    | some deployment => [("deployment_type", deployment.name)]) ++
  [("monitor", document.monitorLabel)]

def targetNode (target : Target) : Node :=
  .record [
    ("job_name", .scalar target.job),
    ("scrape_interval", .scalar target.interval),
    ("metrics_path", .scalar target.path),
    ("static_configs", .list [.record [
      ("targets", .list [.scalar target.target]),
      ("labels", labelNode target.labels)]])]

def toYaml (document : Document) : Node :=
  .record [
    ("global", .record [
      ("scrape_interval", .scalar "5s"),
      ("evaluation_interval", .scalar "5s"),
      ("external_labels", labelNode document.externalLabels)]),
    ("scrape_configs", .list (document.targets.map targetNode))]

def render (document : Document) : String :=
  document.toYaml.render

end Document
end CoreWatch.Scrape
