import NodeVolumes.Config.VolumeConfig
import NodeVolumes.Object.PersistentVolume
import NodeVolumes.Volume.Request

/-! # Volumes on a node

A volume that has been provisioned, and the record of it that a persistent volume keeps until the
volume is deleted.

* `LocalVolume.toPersistentVolume` writes a volume as a persistent volume.
* `VolumeRecord.ofPersistentVolume` reads the record back from any persistent volume. -/

namespace NodeVolumes

/-- The label of persistent volumes that tells their storage kind. -/
def storageKindLabel : String := "openebs.io/cas-type"

/-- The annotation of persistent volumes that names their device claim. -/
def deviceClaimKey : String := "local.openebs.io/blockdeviceclaim"

/-- The reclaim policy that deletes a released volume. -/
def deletePolicy : String := "Delete"

/-- The reclaim policy that keeps a released volume. -/
def retainPolicy : String := "Retain"

/-- What backs a volume on its node. -/
inductive Backing where
  | hostPath (path : String)
  /-- A bound device, with the claim that binds it. -/
  | device (path : String) (fsType : Option String) (claim : String)
  deriving DecidableEq, Repr

namespace Backing

/-- The storage kind. -/
def kind : Backing → StorageKind
  | hostPath _ => .hostPath
  | device .. => .device

/-- The path on the node. -/
def path : Backing → String
  | hostPath path => path
  | device path _ _ => path

/-- The path and file system as a persistent volume holds them. -/
def localSource : Backing → LocalSource
  | hostPath path => { path }
  | device path fsType _ => { path, fsType }

/-- The annotations of a persistent volume. -/
def annotations : Backing → Option TextMap
  | hostPath _ => none
  | device _ _ claim => some (KeyMap.singleton deviceClaimKey claim)

end Backing

/-- A volume that has been provisioned. -/
structure LocalVolume where
  name : String
  backing : Backing
  /-- The node labels that the volume is pinned by. -/
  nodeAffinity : TextMap
  capacity : Option String
  accessModes : List String
  reclaimPolicy : String
  volumeMode : String
  storageClass : Option String
  deriving DecidableEq, Repr

/-- The persistent volume for a volume. -/
def LocalVolume.toPersistentVolume (v : LocalVolume) : PersistentVolume where
  metadata :=
    { name := some v.name
      labels := some (KeyMap.singleton storageKindLabel v.backing.kind.label)
      annotations := v.backing.annotations }
  spec := some
    { accessModes := some v.accessModes
      capacity := v.capacity.map (KeyMap.singleton "storage")
      localSource := some v.backing.localSource
      nodeAffinity := some ⟨some (NodeSelector.ofLabels v.nodeAffinity)⟩
      reclaimPolicy := some v.reclaimPolicy
      storageClassName := v.storageClass
      volumeMode := some v.volumeMode }

/-! ### Records -/

/-- What has to be known of a volume to delete it. -/
structure VolumeRecord where
  name : String
  kind : StorageKind
  path : Option String
  nodeAffinity : TextMap
  claimName : Option String
  reclaimPolicy : String
  deriving DecidableEq, Repr

namespace VolumeRecord

/-- Tells whether the volume is kept when it is released. -/
def isRetained (r : VolumeRecord) : Bool := r.reclaimPolicy = retainPolicy

/-- The path of a persistent volume on its node: local storage first, then a directory. -/
def pathOf (spec : VolumeSpec) : Option String :=
  ((spec.localSource.map (·.path)).or (spec.hostPath.map (·.path))).filter (· ≠ "")

/-- The labels by which a persistent volume is pinned. -/
def affinityOf (spec : VolumeSpec) : TextMap :=
  match spec.nodeAffinity.bind (·.required) with
  | some selector => selector.toLabels
  | none => .empty

/-- The record that a persistent volume keeps. It needs a name; all else has a meaning when it is
left out. -/
def ofPersistentVolume (pv : PersistentVolume) : Except Error VolumeRecord :=
  match pv.metadata.name.filter (· ≠ "") with
  | none => .error (.invalidRequest "persistent volume has no name")
  | some name => .ok
      { name
        kind :=
          if pv.metadata.label? storageKindLabel = some StorageKind.device.label then .device
          else .hostPath
        path := pv.spec.bind pathOf
        nodeAffinity := (pv.spec.map affinityOf).getD .empty
        claimName := (pv.metadata.annotation? deviceClaimKey).filter (· ≠ "")
        reclaimPolicy := (pv.spec.bind (·.reclaimPolicy)).getD deletePolicy }

end VolumeRecord
end NodeVolumes
