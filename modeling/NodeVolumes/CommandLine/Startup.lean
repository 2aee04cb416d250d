import NodeVolumes.CommandLine.LogFilter
import NodeVolumes.CommandLine.LogLine
import NodeVolumes.Text.Quoted

/-! # Starting the program

The program reads its command line, says how it is set up, looks for a cluster and checks its settings.

* `CommandLine.start` tells how far it gets. -/

namespace NodeVolumes.CommandLine

/-- The version of the program. -/
def version : String := "0.2.0"

/-- Why the program does not start to serve. -/
inductive StartFailure where
  /-- No cluster is configured. -/
  | noCluster
  /-- The settings are refused. -/
  | refused (e : Error)
  deriving DecidableEq, Repr

/-- How far a start gets. -/
inductive Startup where
  /-- The command line ends it. -/
  | stopped (stop : Stop)
  /-- It says how it is set up, and then fails or serves. -/
  | announced (json : Bool) (lines : List String) (failure : Option StartFailure)
  deriving DecidableEq, Repr

/-- What the program says about its settings. -/
def announcement (s : Settings) : List String :=
  ["Starting Local PV Provisioner",
    "  Version: " ++ version,
    "  Namespace: " ++ s.ns,
    "  Helper image: " ++ s.helperImage,
    "  Base path: " ++ s.basePath,
    "  BDC retries: " ++ toString s.claimRetryCount]

/-- The failure of a start with settings. -/
def startFailure? (s : Settings) (hasCluster : Bool) : Option StartFailure :=
  if !hasCluster then some .noCluster
  else match s.check with
    | .ok () => none
    | .error e => some (.refused e)

/-- Starts the program. -/
def start (env : TextMap) (args : List String) (hasCluster : Bool) : Startup :=
  match read env args with
  | .error stop => .stopped stop
  | .ok a =>
    let filter := LogFilter.ofSetup ((env.get? "RUST_LOG").getD "") (.ofOption (a.get "log-level"))
    let lines :=
      if filter.shows LogFilter.startPart .info then announcement a.settings else []
    .announced a.logJson (if a.logJson then lines else lines.map LogLine.plain)
      (startFailure? a.settings hasCluster)

/-- The code with which a start ends the process. -/
def Startup.exitCode : Startup → Nat
  | stopped .usage => 2
  | stopped _ => 0
  | announced _ _ none => 0
  | announced _ _ (some _) => 1

/-- A refusal of settings as the process reports it. -/
def refusal : Error → String
  | .configuration detail => "Configuration(" ++ Text.quoted detail ++ ")"
  | e => e.message

end NodeVolumes.CommandLine
