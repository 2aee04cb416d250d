import NodeVolumes.CommandLine.Startup

/-! # The command line program

Reads arguments and environment, and reports how far the start gets. -/

namespace NodeVolumes.CommandLine

/-- The use of the program in a few words. -/
def usage : String :=
  "Usage: localpv-provisioner [OPTIONS] --namespace <NAMESPACE>\n\nOptions:\n" ++
    String.join (options.map fun o => "      --" ++ o.name ++ "\n") ++
    "  -h, --help\n  -V, --version\n"

/-- The variables of the environment that matter. -/
def environment : IO TextMap := do
  let names := "RUST_LOG" :: options.filterMap (·.environmentName)
  let pairs ← names.filterMapM fun name => do
    return (← IO.getEnv name).map fun value => (name, value)
  return KeyMap.ofList pairs

/-- A line of the log. -/
def logLine (json : Bool) (text : String) : String :=
  if json then "\x7b\"level\":\"INFO\",\"fields\":\x7b\"message\":" ++ Text.quoted text ++ "\x7d\x7d"
  else "INFO " ++ LogFilter.startPart ++ ": " ++ text

/-- Reports a start on the standard streams. -/
def report : Startup → IO Unit
  | .stopped .help => IO.print usage
  | .stopped .version => IO.println ("localpv-provisioner " ++ version)
  | .stopped .usage => IO.eprint usage
  | .announced json lines failure => do
    for line in lines do IO.println (logLine json line)
    match failure with
    | none => return
    | some .noCluster => IO.eprintln "Error: no cluster is configured"
    | some (.refused e) => IO.eprintln ("Error: " ++ refusal e)

end NodeVolumes.CommandLine

open NodeVolumes.CommandLine in
/-- Starts the program without a cluster at hand. -/
def main (args : List String) : IO UInt32 := do
  let startup := start (← environment) args false
  report startup
  return startup.exitCode.toUInt32
