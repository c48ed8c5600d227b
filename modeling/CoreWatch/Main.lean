import CoreWatch.Agent.Start
import CoreWatch.Files.Replace
import Std.Time.DateTime.Timestamp

set_option autoImplicit false

namespace CoreWatch.CommandLine

def settingKeys : List String :=
  ["instance", "api_port", "discovery_interval_secs", "fetch_interval_secs", "fetch_timeout_secs",
    "stale_after_secs", "upstream_metrics_port", "sampler_port", "sampler_interval_secs",
    "prober_port", "prober_interval_secs", "probe_timeout_secs", "management_port",
    "scrape_config_path", "advertise_host", "shutdown_grace_secs", "topology_file", "image_filter"]

def knownVariables : List String :=
  Config.fileVariable :: Config.hostVariable ::
    settingKeys.map fun key => "NFMON_" ++ String.ofList (key.toList.map Char.toUpper)

def environment : IO Config.Environment :=
  knownVariables.filterMapM fun name => return (← IO.getEnv name).map (name, ·)

def contents? (path : String) : IO (Option (List UInt8)) := do
  try return some (← IO.FS.readBinFile path).toList
  catch _ => return none

/-- The files that the configuration names, itself included. -/
def files (environment : Config.Environment) : IO (List (String × List UInt8)) := do
  let read (path : Option String) : IO (List (String × List UInt8)) := do
    let some path := path | return []
    return ((← contents? path).map (path, ·)).toList
  let named ← read (environment.get? Config.fileVariable)
  match Config.load environment fun path => named.lookup path with
  | .error _ => return named
  | .ok config => return named ++ (← read config.topologyPath)

/-- Puts a document in the place of a file, and tells whether this was possible. -/
def replaceFile (path : String) (document : Scrape.Document) : IO Bool := do
  let temporary := FileTree.temporaryPath path
  try
    if FileTree.parentPath path != "" then IO.FS.createDirAll (FileTree.parentPath path)
    IO.FS.writeFile temporary document.render
    IO.FS.rename temporary path
    return true
  catch _ => return false

def log (instanceName : String) (events : List Event) : IO Unit :=
  events.forM fun event => IO.println (event.toJson instanceName).render

def clock : IO Moment := do
  return ⟨(← Std.Time.Timestamp.now).toNanosecondsSinceUnixEpoch.val⟩

/-- Starts the agent. The scrape document is put on the disk before the start is final. -/
def launch (now : Moment) : IO Agent.Start := do
  let environment ← environment
  let files ← files environment
  let begin (writes : Bool) : Agent.Start :=
    Agent.start
      { environment
        readFile := fun path => files.lookup path
        engine := none
        occupied := []
        bindFault := "Address already in use (os error 98)"
        writes := fun _ => writes } now
  let start := begin true
  match start.attempt, Config.load environment fun path => files.lookup path with
  | some document, .ok config =>
    let some path := config.scrapePath | return start
    return begin (← replaceFile path document)
  | _, _ => return start

def reply (agent : Agent) (now : Moment) (line : String) : Http.Response :=
  match (Text.splitOn ' ' (Text.trim line.toList)).map String.ofList with
  | [port, target] =>
    let page := port.toNat?.bind fun port =>
      agent.answer now (.error "no client") port (.get target)
    page.getD (.bare 503)
  | _ => .bare 400

partial def serve (agent : Agent) (input : IO.FS.Stream) : IO Unit := do
  let line ← input.getLine
  if line != "" then
    let response := reply agent (← clock) line
    IO.println (toString response.status)
    IO.println response.body.toText
    serve agent input

def run : IO UInt32 := do
  let start ← launch (← clock)
  log start.instanceName start.events
  match start.result with
  | .error fault =>
    IO.eprintln (fault.report?.getD fault.message)
    return UInt32.ofNat fault.exitCode
  | .ok agent =>
    serve agent (← IO.getStdin)
    log start.instanceName (agent.shutdown .terminate)
    return 0

end CoreWatch.CommandLine

def main : IO UInt32 :=
  CoreWatch.CommandLine.run
