import NodeVolumes.Cluster.Call
import NodeVolumes.ObjectKey

/-! # A cluster in memory

A small cluster that answers the calls of the engine from its own objects. Helper pods end at once, as
they are scripted to, and a device claim is bound when it has been read a given number of times.

* `Memory.answer` gives the reply to a call and the cluster after it. -/

namespace NodeVolumes.Cluster

/-- The end of a helper pod. -/
inductive HelperOutcome where
  | succeed
  | fail
  /-- The pod goes on for ever. -/
  | never
  deriving DecidableEq, Repr

/-- The phase of a pod with an outcome. -/
def HelperOutcome.phase : HelperOutcome → String
  | succeed => "Succeeded"
  | fail => "Failed"
  | never => "Running"

/-- The device for a claim, and the read at which the claim is bound to it. -/
structure Binding where
  device : String
  afterReads : Nat
  deriving DecidableEq, Repr

/-- The objects of a cluster, what is scripted for it and what has been done to it. -/
structure Memory where
  storageClasses : KeyMap String StorageClass := .empty
  nodes : KeyMap String Node := .empty
  pods : KeyMap ObjectKey Pod := .empty
  claims : KeyMap ObjectKey BlockDeviceClaim := .empty
  devices : KeyMap ObjectKey BlockDevice := .empty
  /-- The outcome of helper pods without one of their own. -/
  defaultOutcome : HelperOutcome := .succeed
  /-- Outcomes by the name of the pod. -/
  outcomes : KeyMap String HelperOutcome := .empty
  /-- Bindings by the name of the claim. -/
  bindings : KeyMap String Binding := .empty
  /-- How often claims have been read, by name. -/
  claimReads : KeyMap String Nat := .empty
  /-- The pods that have been created, the latest first. -/
  createdPods : List Pod := []
  /-- The names of the pods that have been deleted, the latest first. -/
  deletedPods : List String := []
  claimsCreated : Nat := 0
  failPodDeletes : Bool := false
  deriving DecidableEq, Repr

namespace Memory

/-! ### Preparing -/

/-- Adds a storage class. -/
def addStorageClass (m : Memory) (c : StorageClass) : Memory :=
  { m with storageClasses := m.storageClasses.insert c.metadata.nameD c }

/-- Adds a node. -/
def addNode (m : Memory) (n : Node) : Memory :=
  { m with nodes := m.nodes.insert n.metadata.nameD n }

/-- Adds a block device. -/
def addDevice (m : Memory) (ns : String) (d : BlockDevice) : Memory :=
  { m with devices := m.devices.insert ⟨ns, d.metadata.nameD⟩ d }

/-- Adds a device claim. -/
def addClaim (m : Memory) (ns : String) (c : BlockDeviceClaim) : Memory :=
  { m with claims := m.claims.insert ⟨ns, c.metadata.nameD⟩ c }

/-- Adds a pod. -/
def addPod (m : Memory) (ns : String) (p : Pod) : Memory :=
  { m with pods := m.pods.insert ⟨ns, p.metadata.nameD⟩ p }

/-- Sets the outcome of one helper pod. -/
def scriptHelper (m : Memory) (pod : String) (o : HelperOutcome) : Memory :=
  { m with outcomes := m.outcomes.insert pod o }

/-- Binds a claim to a device at a read of it. -/
def bindAfter (m : Memory) (claim : String) (b : Binding) : Memory :=
  { m with bindings := m.bindings.insert claim b }

/-! ### Looking -/

/-- How often a claim has been read. -/
def readsOf (m : Memory) (claim : String) : Nat := (m.claimReads.get? claim).getD 0

/-- The values of a map that are kept in a namespace, in the order of their names. -/
def inNamespace {α : Type} (objects : KeyMap ObjectKey α) (ns : String) : List α :=
  (objects.filter fun e => e.1.ns = ns).values

/-- The pods of a namespace. -/
def podsIn (m : Memory) (ns : String) : List Pod := inNamespace m.pods ns

/-- The device claims of a namespace. -/
def claimsIn (m : Memory) (ns : String) : List BlockDeviceClaim := inNamespace m.claims ns

/-! ### Answering -/

/-- The value of a look-up, or the error for a missing object. -/
def found {α : Type} (kind : Kind) (name : String) (object : Option α) : Except Error α :=
  match object with
  | some a => .ok a
  | none => .error (.resourceNotFound kind.name name)

/-- The outcome of the helper pod with a name. -/
def outcomeOf (m : Memory) (pod : String) : HelperOutcome :=
  (m.outcomes.get? pod).getD m.defaultOutcome

/-- A pod as it is kept after its creation in a namespace. -/
def started (m : Memory) (ns : String) (pod : Pod) : Pod :=
  { pod with
    metadata := { pod.metadata with ns := some ns }
    status := some { phase := some (m.outcomeOf pod.metadata.nameD).phase } }

/-- Creates a pod, unless one of its name exists. -/
def createPod (m : Memory) (ns : String) (pod : Pod) : Except Error Pod × Memory :=
  let key : ObjectKey := ⟨ns, pod.metadata.nameD⟩
  if m.pods.contains key then (.error (.resourceExists Kind.pod.name key.name), m)
  else
    (.ok (m.started ns pod),
      { m with
        createdPods := pod :: m.createdPods
        pods := m.pods.insert key (m.started ns pod) })

/-- Deletes a pod, unless deletes are set to fail. -/
def deletePod (m : Memory) (ns name : String) : Except Error Unit × Memory :=
  if m.failPodDeletes then
    (.error (.internal ("injected delete failure for pod " ++ name)), m)
  else if m.pods.contains ⟨ns, name⟩ then
    (.ok (),
      { m with
        pods := m.pods.erase ⟨ns, name⟩
        deletedPods := name :: m.deletedPods })
  else (.error (.resourceNotFound Kind.pod.name name), m)

/-- A claim as a read finds it, when it has been read a number of times. -/
def bound (binding : Option Binding) (reads : Nat) (claim : BlockDeviceClaim) : BlockDeviceClaim :=
  match binding with
  | none => claim
  | some b =>
    if b.afterReads ≤ reads ∧ claim.boundDevice? = none then claim.bindTo b.device else claim

/-- Reads a claim, which may bind it. A read of a missing claim counts too. -/
def getClaim (m : Memory) (ns name : String) : Except Error BlockDeviceClaim × Memory :=
  let reads := m.readsOf name + 1
  let m := { m with claimReads := m.claimReads.insert name reads }
  match m.claims.get? ⟨ns, name⟩ with
  | none => (.error (.resourceNotFound Kind.blockDeviceClaim.name name), m)
  | some claim =>
    let claim := bound (m.bindings.get? name) reads claim
    (.ok claim, { m with claims := m.claims.insert ⟨ns, name⟩ claim })

/-- Creates a claim, unless one of its name exists. -/
def createClaim (m : Memory) (ns : String) (claim : BlockDeviceClaim) :
    Except Error BlockDeviceClaim × Memory :=
  let key : ObjectKey := ⟨ns, claim.metadata.nameD⟩
  if m.claims.contains key then
    (.error (.resourceExists Kind.blockDeviceClaim.name key.name), m)
  else
    let created := { claim with metadata := { claim.metadata with ns := some ns } }
    (.ok created,
      { m with
        claims := m.claims.insert key created
        claimsCreated := m.claimsCreated + 1 })

/-- Replaces a claim that exists. -/
def replaceClaim (m : Memory) (ns : String) (claim : BlockDeviceClaim) :
    Except Error BlockDeviceClaim × Memory :=
  let key : ObjectKey := ⟨ns, claim.metadata.nameD⟩
  if m.claims.contains key then (.ok claim, { m with claims := m.claims.insert key claim })
  else (.error (.resourceNotFound Kind.blockDeviceClaim.name key.name), m)

/-- Deletes a claim, whatever finalizers it carries. -/
def deleteClaim (m : Memory) (ns name : String) : Except Error Unit × Memory :=
  if m.claims.contains ⟨ns, name⟩ then (.ok (), { m with claims := m.claims.erase ⟨ns, name⟩ })
  else (.error (.resourceNotFound Kind.blockDeviceClaim.name name), m)

/-- The reply to a call, and the cluster after it. -/
def answer : (c : Call) → Memory → Reply c × Memory
  | .getStorageClass name, m => (found .storageClass name (m.storageClasses.get? name), m)
  | .listNodes labels, m => (.ok (m.nodes.values.filter (·.carries labels)), m)
  | .createPod ns pod, m => m.createPod ns pod
  | .getPod ns name, m => (found .pod name (m.pods.get? ⟨ns, name⟩), m)
  | .deletePod ns name, m => m.deletePod ns name
  | .listPods ns, m => (.ok (m.podsIn ns), m)
  | .getClaim ns name, m => m.getClaim ns name
  | .createClaim ns claim, m => m.createClaim ns claim
  | .replaceClaim ns claim, m => m.replaceClaim ns claim
  | .deleteClaim ns name, m => m.deleteClaim ns name
  | .listClaims ns, m => (.ok (m.claimsIn ns), m)
  | .getBlockDevice ns name, m => (found .blockDevice name (m.devices.get? ⟨ns, name⟩), m)

end Memory
end NodeVolumes.Cluster
