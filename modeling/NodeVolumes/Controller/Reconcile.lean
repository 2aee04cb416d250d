import NodeVolumes.Controller.Claims
import NodeVolumes.Controller.Task

/-! # The controller

In one pass the controller lists the storage classes that name it, the claims and the persistent volumes.
Every claim that needs a volume gets one, and every volume that is released is deleted, one after the
other, so that creation and deletion of one volume never meet.

* `pass` is the work of one pass, `passes` that of repeated ones until they are cancelled.
* `reconcileOnce` and `reconcile` do this work on the API server. -/

namespace NodeVolumes.Controller

/-- What the controller works with. -/
structure Options where
  settings : Settings := {}
  /-- The name of the provisioner in storage classes and on volumes. -/
  provisioner : String := "openebs.io/local"
  /-- Milliseconds between two passes. -/
  resyncMs : Nat := 10000
  deriving DecidableEq, Repr

/-- Looks up an object that may be missing. -/
def getOpt (kind : Kind) (name : String) : Work (Except ApiError (Option kind.Object)) := do
  match ← Work.call (.get kind none name) with
  | .ok object => return .ok (some object)
  | .error e => if e.saysNotFound then return .ok none else return .error e

/-! ### Claims -/

/-- Looks up the node that the scheduler chose for a claim. -/
def selectedNode (claim : PersistentVolumeClaim) : Work (Except Error (Option Node)) := do
  match selectedNode? claim with
  | none => return .ok none
  | some name =>
    match ← getOpt .node name with
    | .ok node => return .ok node
    | .error e => return .error (Error.ofApi e Kind.node.name name)

/-- The patch that takes the chosen node off a claim. -/
def reschedulePatch : Json :=
  .object [("metadata", .object [("annotations", .object [(selectedNodeKey, .null)])])]

/-- Takes the chosen node off a claim, so that the scheduler chooses again. -/
def reschedule (ns name : String) : Work Unit := do
  match ← Work.call (.patch .persistentVolumeClaim (some ns) name reschedulePatch) with
  | .ok _ => return
  | .error e =>
    Work.log .warning ("Unable to reschedule claim " ++ ns ++ "/" ++ name ++ ": " ++ e.describe)

/-- Draws the consequences of a failed provision call for its claim. -/
def onFailure (claim : PersistentVolumeClaim) (ns name : String) (e : Error) : Work Unit := do
  if e.provisioningState = .reschedule then reschedule ns name
  else if !e.isRetryable then
    Work.log .warning ("Claim " ++ ns ++ "/" ++ name ++ " will not be retried until it changes: " ++
      e.message)
  modify fun p => p.park claim e

/-- Creates the persistent volume for a volume and its claim. -/
def createVolume (o : Options) (claim : PersistentVolumeClaim) (volume : LocalVolume) : Work Unit := do
  let pv := bindToClaim volume.toPersistentVolume claim o.provisioner
  match ← Work.call (.create .persistentVolume none pv) with
  | .ok _ => return
  | .error e => Work.log .error ("Unable to create PV " ++ volume.name ++ ": " ++ e.describe)

/-- The node that the scheduler chose for a claim; one that cannot be looked up counts as missing. -/
def chosenNode (claim : PersistentVolumeClaim) (ns name : String) : Work (Option Node) := do
  match ← selectedNode claim with
  | .ok node => return node
  | .error e =>
    Work.log .warning ("Unable to get selected node for " ++ ns ++ "/" ++ name ++ ": " ++ e.message)
    return none

/-- Provisions the volume for a claim whose volume does not exist yet. -/
def provisionAbsent (o : Options) (claim : PersistentVolumeClaim) (ns name volume : String) :
    Work Unit := do
  let node ← chosenNode claim ns name
  match ← Work.ask (.provision ⟨volume, claim, node⟩) with
  | .error e => onFailure claim ns name e
  | .ok made =>
    modify fun p => p.free claim
    createVolume o claim made

/-- Serves a claim that needs a volume. -/
def provisionClaim (o : Options) (claim : PersistentVolumeClaim) : Work Unit := do
  let ns := claim.metadata.ns.getD ""
  let name := claim.metadata.nameD
  match volumeName? claim with
  | none => Work.log .warning ("Claim " ++ ns ++ "/" ++ name ++ " has no uid, skipping")
  | some volume =>
    if (← get).holds claim then return
    match ← getOpt .persistentVolume volume with
    | .ok (some _) => return
    | .ok none => provisionAbsent o claim ns name volume
    | .error e => Work.log .warning ("Unable to look up volume " ++ volume ++ ": " ++ e.describe)

/-- Serves a claim, if it needs a volume of one of the classes. -/
def serveClaim (o : Options) (classes : List String) (claim : PersistentVolumeClaim) : Work Unit :=
  if needsVolume claim classes then provisionClaim o claim else pure ()

/-! ### Volumes -/

/-- Deletes a released volume, then its persistent volume. -/
def deleteVolume (pv : PersistentVolume) : Work Unit := do
  let name := pv.metadata.nameD
  match ← Work.ask (.delete pv) with
  | .error e =>
    if e.isTransient then
      Work.log .warning ("Volume " ++ name ++ " not deleted, will retry: " ++ e.message)
    else Work.log .error ("Volume " ++ name ++ " not deleted, needs attention: " ++ e.message)
  | .ok () =>
    match ← Work.call (.delete .persistentVolume none name) with
    | .ok () => return
    | .error e =>
      let error := Error.ofApi e Kind.persistentVolume.name name
      if !error.isNotFound then
        Work.log .error ("Unable to remove PV " ++ name ++ ": " ++ error.message)

/-- Deletes a volume, if it is released. -/
def serveVolume (o : Options) (pv : PersistentVolume) : Work Unit :=
  if isReleased pv o.provisioner then deleteVolume pv else pure ()

/-! ### Passes -/

/-- Does something for each item until the program is cancelled; tells whether it was. -/
def untilCancelled {α : Type} (f : α → Work Unit) : List α → Work Bool
  | [] => pure false
  | a :: rest => do
    if ← Work.isCancelled then return true
    f a
    untilCancelled f rest

/-- The names of the storage classes that name the provisioner. -/
def ourClasses (o : Options) (classes : List StorageClass) : List String :=
  (classes.filter (·.provisioner = o.provisioner)).filterMap (·.metadata.name)

/-- Serves the listed claims. -/
def reconcileClaims (o : Options) (classes : List String) (claims : List PersistentVolumeClaim) :
    Work Bool :=
  untilCancelled (serveClaim o classes) claims

/-- Deletes the released ones of the listed volumes. -/
def reconcileVolumes (o : Options) (volumes : List PersistentVolume) : Work Bool :=
  untilCancelled (serveVolume o) volumes

/-- One pass over claims and volumes. It fails when one of its lists does. -/
def pass (o : Options) : Work (Except Error Unit) := do
  match ← Work.call (.list .storageClass none none) with
  | .error e => return .error (.api e)
  | .ok classes =>
    match ← Work.call (.list .persistentVolumeClaim none none) with
    | .error e => return .error (.api e)
    | .ok claims =>
      modify fun p => p.keepListed claims
      if ← reconcileClaims o (ourClasses o classes) claims then return .ok ()
      match ← Work.call (.list .persistentVolume none none) with
      | .error e => return .error (.api e)
      | .ok volumes =>
        let _ ← reconcileVolumes o volumes
        return .ok ()

/-- Logs a pass that has failed. -/
def reportPass : Except Error Unit → Work Unit
  | .ok () => pure ()
  | .error e => Work.log .error ("Reconcile pass failed: " ++ e.message)

/-- Repeats passes until it is cancelled, at most a number of times; tells whether it was
cancelled. -/
def passes (o : Options) : Nat → Work Bool
  | 0 => pure false
  | left + 1 => do
    reportPass (← pass o)
    if ← Work.wait o.resyncMs then return true
    passes o left

/-- One pass on the API server. -/
def reconcileOnce (o : Options) : Pass (Except Error Unit) := (pass o).perform o.settings

/-- Repeated passes on the API server. -/
def reconcile (o : Options) (limit : Nat) : Pass Bool := (passes o limit).perform o.settings

end NodeVolumes.Controller
