import NodeVolumes.Device.Claim
import NodeVolumes.HostPath.Provision

/-! # Volumes on block devices

A device volume is made by binding a device claim on the chosen node, and deleted by releasing the claim
on record. The device manager of the node wipes the device.

* `provision` and `delete` are the two halves. -/

namespace NodeVolumes.Device

/-- The device that a request needs. -/
def deviceRequest (request : ProvisionRequest) (config : VolumeConfig) (nodeAffinity : TextMap) :
    DeviceRequest where
  volume := request.volume
  hostname := request.hostname
  nodeAffinity
  selectors := config.deviceSelectors?
  capacity := request.storage?
  raw := request.isBlock

/-- Binds a device for a volume. -/
def provision (settings : Settings) (request : ProvisionRequest) (plan : Plan) :
    Attempt LocalVolume := do
  let nodeAffinity ← Attempt.check (request.affinityLabels plan.config.affinityLabels?)
  if request.hostname = "" then
    throw (.invalidRequest ("selected node for " ++ request.volume ++ " has no hostname label"))
  let (claim, device) ← bind settings (deviceRequest request plan.config nodeAffinity)
  return {
    name := request.volume
    backing := .device device.spec.volumePath plan.config.fsType? claim
    nodeAffinity
    capacity := request.storage?
    accessModes := request.accessModes
    reclaimPolicy := plan.reclaimPolicy
    volumeMode := if request.isBlock then blockMode else filesystemMode
    storageClass := some plan.storageClass }

/-- Releases the device of a volume, if a claim is on record. -/
def delete (settings : Settings) (record : VolumeRecord) : Attempt Unit :=
  match record.claimName with
  | none => pure ()
  | some claim => release settings claim

end NodeVolumes.Device
