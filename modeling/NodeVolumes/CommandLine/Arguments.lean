import NodeVolumes.Config.Settings
import NodeVolumes.Number.Decimal

/-! # Arguments of the command line

Every option takes its value from the command line, else from its environment variable, else from its
default. Arguments are read from left to right; a request for help or for the version ends the reading,
and so does the first mistake.

* `CommandLine.scan` reads the arguments, `CommandLine.complete` adds the environment.
* `CommandLine.Arguments` holds the values. -/

namespace NodeVolumes.CommandLine

/-! ### Options -/

/-- What an option takes. -/
inductive Taking where
  /-- Any text. -/
  | text
  /-- A whole number below a limit, with or without a sign. -/
  | number (limit : Nat) (signed : Bool)
  /-- Nothing; the environment may say `true` or `false`. -/
  | nothing
  deriving DecidableEq, Repr

/-- Tells whether an option can take a text as its value. -/
def Taking.accepts : Taking → String → Bool
  | text, _ => true
  | nothing, s => s == "true" || s == "false"
  | number limit signed, s =>
    match readInt? s.toList with
    | some n => 0 ≤ n && n < limit && (signed || s.toList.head? ≠ some '-')
    | none => false

/-- An option: its name, its environment variable, its default and what it takes. -/
structure CommandOption where
  name : String
  environmentName : Option String
  defaultValue : Option String
  taking : Taking := .text
  deriving DecidableEq, Repr

/-- The options. -/
def options : List CommandOption :=
  [⟨"namespace", some "OPENEBS_NAMESPACE", none, .text⟩,
    ⟨"helper-image", some "OPENEBS_IO_HELPER_IMAGE", some defaultHelperImage, .text⟩,
    ⟨"base-path", some "OPENEBS_IO_BASE_PATH", some defaultBasePath, .text⟩,
    ⟨"service-account", some "OPENEBS_SERVICE_ACCOUNT", some "", .text⟩,
    ⟨"image-pull-secrets", some "OPENEBS_IO_IMAGE_PULL_SECRETS", some "", .text⟩,
    ⟨"helper-host-network", some "OPENEBS_IO_HELPER_POD_HOST_NETWORK", some "false", .text⟩,
    ⟨"bd-time-out", none, some "12", .number UInt32.size true⟩,
    ⟨"resync-interval-secs", some "RESYNC_INTERVAL", some "10", .number UInt64.size false⟩,
    ⟨"health-addr", some "HEALTH_ADDR", some "0.0.0.0:8081", .text⟩,
    ⟨"metrics-addr", some "METRICS_ADDR", some "0.0.0.0:8080", .text⟩,
    ⟨"log-level", some "LOG_LEVEL", some "info", .text⟩,
    ⟨"log-json", some "LOG_JSON", some "false", .nothing⟩]

/-! ### Reading -/

/-- Why no arguments come out of the reading. -/
inductive Stop where
  | help
  | version
  /-- A mistake in the arguments. -/
  | usage
  deriving DecidableEq, Repr

/-- The name of a long option, and the value attached to it. -/
def longOption? (arg : String) : Option (String × Option String) :=
  match arg.toList with
  | '-' :: '-' :: body =>
    match body.span (· ≠ '=') with
    | (name, _ :: value) => some (String.ofList name, some (String.ofList value))
    | (name, []) => some (String.ofList name, none)
  | _ => none

/-- Tells the arguments that start an option; a dash alone is a value. -/
def isOption (arg : String) : Bool :=
  match arg.toList with
  | '-' :: _ :: _ => true
  | _ => false

/-- The request that a short option makes. -/
def shortStop (arg : String) : Stop :=
  match arg.toList with
  | '-' :: 'h' :: _ => .help
  | '-' :: 'V' :: _ => .version
  | _ => .usage

/-- The given values with one more; each option can be given once, with a value that it accepts. -/
def give (given : TextMap) (o : CommandOption) (value : String) : Except Stop TextMap :=
  if given.contains o.name || !o.taking.accepts value then .error .usage
  else .ok (given.insert o.name value)

/-- Reads arguments from left to right and adds them to the given ones. -/
def scan (given : TextMap) : List String → Except Stop TextMap
  | [] => .ok given
  | arg :: rest =>
    if arg = "--" then if rest = [] then .ok given else .error .usage
    else match longOption? arg with
      | none => .error (shortStop arg)
      | some ("help", none) => .error .help
      | some ("version", none) => .error .version
      | some (name, attached) =>
        match options.find? (·.name = name) with
        | none => .error .usage
        | some o =>
          match o.taking, attached, rest with
          | .nothing, some _, _ => .error .usage
          | .nothing, none, rest => do scan (← give given o "true") rest
          | _, some value, rest => do scan (← give given o value) rest
          | _, none, [] => .error .usage
          | _, none, value :: rest =>
            if isOption value then .error .usage else do scan (← give given o value) rest

/-- The values of all options: those given, then those of the environment, then the defaults. -/
def complete (env given : TextMap) : Except Stop TextMap :=
  options.foldlM (fun values o =>
    if given.contains o.name then .ok values
    else match o.environmentName.bind env.get? with
      | some value => give values o value
      | none =>
        match o.defaultValue with
        | some value => .ok (values.insert o.name value)
        | none => .error .usage) given

/-! ### Values -/

/-- The values of the options. -/
structure Arguments where
  values : TextMap
  deriving DecidableEq, Repr

/-- Reads a command line under an environment. -/
def read (env : TextMap) (args : List String) : Except Stop Arguments := do
  return ⟨← complete env (← scan .empty args)⟩

namespace Arguments

/-- The value of an option. -/
def get (a : Arguments) (name : String) : String := (a.values.get? name).getD ""

/-- The number that an option is set to. -/
def number (a : Arguments) (name : String) : Nat := ((readInt? (a.get name).toList).getD 0).toNat

/-- Tells whether the log is written as JSON. -/
def logJson (a : Arguments) : Bool := a.get "log-json" = "true"

/-- The settings of the process. -/
def settings (a : Arguments) : Settings :=
  { ns := a.get "namespace"
    helperImage := a.get "helper-image"
    basePath := a.get "base-path"
    serviceAccount := a.get "service-account"
    imagePullSecrets := readNames (a.get "image-pull-secrets")
    helperHostNetwork := decide (Text.trim (a.get "helper-host-network") = "true")
    claimRetryCount := a.number "bd-time-out" }

end Arguments
end NodeVolumes.CommandLine
