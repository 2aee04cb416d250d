import NodeVolumes.Volume.LocalVolume

/-! # Claims and volumes of the controller

Which claims need a volume, which volumes can be deleted, and how a volume is tied to its claim.

* `needsVolume` and `isReleased` decide what a pass works on.
* `bindToClaim` ties a persistent volume to the claim that it was made for. -/

namespace NodeVolumes.Controller

/-- The annotation of claims that names the node that the scheduler chose. -/
def selectedNodeKey : String := "volume.kubernetes.io/selected-node"

/-- The annotation of persistent volumes that names their provisioner. -/
def provisionedByKey : String := "pv.kubernetes.io/provisioned-by"

/-- The value of an annotation unless it is empty. -/
def annotation? (m : Metadata) (key : String) : Option String := (m.annotation? key).filter (· ≠ "")

/-- The name of the volume for a claim, which its uid decides. -/
def volumeName? (claim : PersistentVolumeClaim) : Option String :=
  (claim.metadata.uid.filter (· ≠ "")).map ("pvc-" ++ ·)

/-- The name of the node that the scheduler chose for a claim. -/
def selectedNode? (claim : PersistentVolumeClaim) : Option String :=
  annotation? claim.metadata selectedNodeKey

/-- The storage class that a claim asks for. -/
def storageClass? (claim : PersistentVolumeClaim) : Option String :=
  (ProvisionRequest.mk "" claim none).storageClass?

/-- Tells the claims that wait for a volume of one of the classes and have a node. -/
def needsVolume (claim : PersistentVolumeClaim) (classes : List String) : Bool :=
  claim.metadata.deletionTimestamp.isNone &&
    ((claim.status.bind (·.phase)).getD "Pending" = "Pending") &&
    ((claim.spec.bind (·.volumeName)).getD "" = "") &&
    (selectedNode? claim).isSome &&
    (storageClass? claim).any classes.contains

/-- Tells the volumes of a provisioner that are released and to be deleted. -/
def isReleased (pv : PersistentVolume) (provisioner : String) : Bool :=
  decide (pv.status.bind (·.phase) = some "Released") &&
    decide (pv.spec.bind (·.reclaimPolicy) = some deletePolicy) &&
    decide (annotation? pv.metadata provisionedByKey = some provisioner) &&
    pv.metadata.deletionTimestamp.isNone

/-- The reference of a volume to its claim. -/
def claimReference (claim : PersistentVolumeClaim) : ObjectReference where
  apiVersion := some "v1"
  kind := some Kind.persistentVolumeClaim.name
  name := claim.metadata.name
  ns := claim.metadata.ns
  uid := claim.metadata.uid
  resourceVersion := claim.metadata.resourceVersion

/-- A persistent volume tied to its claim and marked with its provisioner. -/
def bindToClaim (pv : PersistentVolume) (claim : PersistentVolumeClaim) (provisioner : String) :
    PersistentVolume :=
  { pv with
    metadata := { pv.metadata with
      annotations :=
        some ((pv.metadata.annotations.getD .empty).insert provisionedByKey provisioner) }
    spec := pv.spec.map fun s => { s with claimRef := some (claimReference claim) } }

end NodeVolumes.Controller
