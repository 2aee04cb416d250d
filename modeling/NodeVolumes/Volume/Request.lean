import NodeVolumes.Error
import NodeVolumes.Object.Node
import NodeVolumes.Object.PersistentVolumeClaim

/-! # Requests for volumes

A request joins a claim, the name that its volume is to have and the node that the scheduler chose.

* `ProvisionRequest.affinityLabels` gives the node labels to pin the volume by.
* `ProvisionRequest.check` refuses what no volume on a node can serve. -/

namespace NodeVolumes

/-- The node label to pin volumes by unless others are configured. -/
def hostnameLabel : String := "kubernetes.io/hostname"

/-- The older annotation of claims that names their storage class. -/
def olderClassKey : String := "volume.beta.kubernetes.io/storage-class"

/-- The only access mode of a volume on a node. -/
def readWriteOnce : String := "ReadWriteOnce"

/-- The volume mode of file systems. -/
def filesystemMode : String := "Filesystem"

/-- The volume mode of raw devices. -/
def blockMode : String := "Block"

/-- The request for one volume. -/
structure ProvisionRequest where
  volume : String
  claim : PersistentVolumeClaim
  node : Option Node
  deriving DecidableEq, Repr

namespace ProvisionRequest

/-! ### Accessors -/

/-- The name of the claim. -/
def claimName (r : ProvisionRequest) : String := r.claim.metadata.nameD

/-- The storage class: the older annotation if there is one, else what the claim asks for; an empty
name is none. -/
def storageClass? (r : ProvisionRequest) : Option String :=
  ((r.claim.metadata.annotation? olderClassKey).or
    (r.claim.spec.bind (·.storageClassName))).filter (· ≠ "")

/-- The requested size. -/
def storage? (r : ProvisionRequest) : Option String :=
  ((r.claim.spec.bind (·.resources)).bind (·.requests)).bind (·.get? "storage")

/-- The access modes that the claim asks for. -/
def accessModes (r : ProvisionRequest) : List String :=
  (r.claim.spec.bind (·.accessModes)).getD []

/-- The volume mode that the claim asks for. -/
def volumeMode (r : ProvisionRequest) : String :=
  (r.claim.spec.bind (·.volumeMode)).getD filesystemMode

/-- Tells whether the claim asks for a raw device. -/
def isBlock (r : ProvisionRequest) : Bool := r.volumeMode = blockMode

/-- The host name label of the chosen node, empty when there is none. -/
def hostname (r : ProvisionRequest) : String :=
  match r.node with
  | some n => n.label hostnameLabel
  | none => ""

/-- The labels of the chosen node to pin the volume by, for the given keys or else for the host
name. -/
def affinityLabels (r : ProvisionRequest) (keys : Option (List String)) : Except Error TextMap :=
  match r.node with
  | none => .error .noSelectedNode
  | some n =>
    .ok (KeyMap.ofList ((keys.getD [hostnameLabel]).map fun key => (key, n.label key)))

/-! ### Checks -/

/-- What is said of a claim that is to be filled from an object. -/
def dataSourceRefusal (claimName : String) (source : DataSource) : String :=
  let group := source.apiGroup.getD ""
  if source.name = "" then "dataSource name not found for PVC `" ++ claimName ++ "`"
  else if source.kind = "VolumeSnapshot" ∧ group = "snapshot.storage.k8s.io" then
    "snapshot feature not supported by this provisioner"
  else if source.kind = "PersistentVolumeClaim" then
    "clone feature not supported by this provisioner"
  else "datasource `" ++ source.kind ++ "` of group `" ++ group ++
    "` is not handled by the provisioner"

/-- Refuses a claim that no volume on a node can serve. -/
def checkClaim (r : ProvisionRequest) : Except Error Unit :=
  match r.claim.spec with
  | none => .error (.invalidRequest ("claim " ++ r.claimName ++ " has no spec"))
  | some spec =>
    match spec.dataSource with
    | some source => .error (.invalidRequest (dataSourceRefusal r.claimName source))
    | none =>
      if spec.selector.isSome then .error (.invalidRequest "claim.Spec.Selector is not supported")
      else if r.accessModes.any (· ≠ readWriteOnce) then
        .error (.invalidRequest "Only support ReadWriteOnce access mode")
      else .ok ()

/-- Refuses a request without a node, or whose node has no host name. -/
def checkNode (r : ProvisionRequest) : Except Error Unit :=
  match r.node with
  | none => .error .noSelectedNode
  | some n =>
    if r.hostname = "" then
      .error (.invalidRequest
        ("configuration error, node " ++ n.metadata.nameD ++ " hostname is empty"))
    else .ok ()

/-- The checks that come before any configuration is read. -/
def check (r : ProvisionRequest) : Except Error Unit := do
  r.checkClaim
  r.checkNode

end ProvisionRequest
end NodeVolumes
