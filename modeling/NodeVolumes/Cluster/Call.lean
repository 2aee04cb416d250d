import NodeVolumes.Error
import NodeVolumes.Config.VolumeConfig
import NodeVolumes.Object.BlockDeviceClaim
import NodeVolumes.Object.Node
import NodeVolumes.Object.Pod
import NodeVolumes.Object.StorageClass
import NodeVolumes.Program

/-! # Calls of the engine on the cluster

The engine reads and writes few objects of the cluster. A look-up of a missing object fails with
`resourceNotFound`, the creation of an existing one with `resourceExists`.

* `Cluster.Call` lists the calls, `Cluster.Call.Answer` what each gives.
* `Attempt` is the type of engine programs, which may fail at any point. -/

namespace NodeVolumes

/-- What the engine tells while it works. -/
inductive Note where
  | log (severity : Severity) (text : String)
  /-- A provision call has ended; the kind is missing when none was found out. -/
  | provisioned (kind : Option StorageKind) (ok : Bool)
  /-- A delete call has ended. -/
  | deleted (kind : StorageKind) (ok : Bool)
  deriving DecidableEq, Repr

namespace Cluster

/-- A call of the engine on the cluster. -/
inductive Call where
  | getStorageClass (name : String)
  /-- The nodes that carry every label of a map. -/
  | listNodes (labels : TextMap)
  | createPod (ns : String) (pod : Pod)
  | getPod (ns name : String)
  | deletePod (ns name : String)
  | listPods (ns : String)
  | getClaim (ns name : String)
  | createClaim (ns : String) (claim : BlockDeviceClaim)
  | replaceClaim (ns : String) (claim : BlockDeviceClaim)
  | deleteClaim (ns name : String)
  | listClaims (ns : String)
  | getBlockDevice (ns name : String)
  deriving DecidableEq, Repr

/-- What a call gives. -/
@[reducible] def Call.Answer : Call → Type
  | getStorageClass _ => StorageClass
  | listNodes _ => List Node
  | createPod .. => Pod
  | getPod .. => Pod
  | deletePod .. => Unit
  | listPods _ => List Pod
  | getClaim .. => BlockDeviceClaim
  | createClaim .. => BlockDeviceClaim
  | replaceClaim .. => BlockDeviceClaim
  | deleteClaim .. => Unit
  | listClaims _ => List BlockDeviceClaim
  | getBlockDevice .. => BlockDevice

/-- What comes back from a call. -/
abbrev Reply (c : Call) : Type := Except Error c.Answer

end Cluster

/-- A program of the engine. -/
abbrev Engine (α : Type) : Type := Program Cluster.Call Cluster.Reply Note α

/-- A program of the engine that may fail. -/
abbrev Attempt (α : Type) : Type := ExceptT Error (Program Cluster.Call Cluster.Reply Note) α

namespace Attempt

/-- Makes a call and fails as it fails. -/
def call (c : Cluster.Call) : Attempt c.Answer := ExceptT.mk (Program.ask c)

/-- Makes a call and gives what comes back. -/
def reply (c : Cluster.Call) : Attempt (Cluster.Reply c) := ExceptT.lift (Program.ask c)

/-- Makes a call and fails with another error in the place of its own. -/
def callOr (c : Cluster.Call) (reword : Error → Error) : Attempt c.Answer := do
  match ← reply c with
  | .ok a => return a
  | .error e => throw (reword e)

/-- Waits, and fails with the given error when it is cancelled meanwhile. -/
def waitOr (ms : Nat) (e : Error) : Attempt Unit := do
  if ← ExceptT.lift (Program.wait ms) then throw e

/-- Logs a warning. -/
def warn (text : String) : Attempt Unit := ExceptT.lift (Program.tell (.log .warning text))

/-- The result of a step that cannot fail by itself. -/
def check {α : Type} (r : Except Error α) : Attempt α := ExceptT.mk (pure r)

/-- Runs a task and gives its outcome, without failing. -/
def outcome {α : Type} (t : Attempt α) : Attempt (Except Error α) := ExceptT.lift t.run

end Attempt
end NodeVolumes
