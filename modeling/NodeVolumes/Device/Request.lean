import NodeVolumes.Error
import NodeVolumes.Object.BlockDeviceClaim

/-! # Requests for block devices

What a volume needs of a device, and the claim that says so.

* `DeviceRequest.toClaim` writes the claim; there is one claim for each volume, named after it. -/

namespace NodeVolumes.Device

/-- The name of the device claim of a volume. -/
def claimName (volume : String) : String := "bdc-" ++ volume

/-- What a volume needs of a device. -/
structure DeviceRequest where
  volume : String
  /-- The host name of the node that the device must be attached to. -/
  hostname : String
  nodeAffinity : TextMap
  /-- Further labels that the device must carry. -/
  selectors : Option TextMap
  capacity : Option String
  /-- Whether the device is used without a file system. -/
  raw : Bool
  deriving DecidableEq, Repr

namespace DeviceRequest

/-- Refuses a request without a volume or a node. -/
def check (r : DeviceRequest) : Except Error Unit :=
  if r.volume = "" ∨ r.hostname = "" then
    .error (.invalidRequest "invalid empty name or node hostname")
  else .ok ()

/-- The labels that the device must carry: those of the node overlaid with the further ones. -/
def matchLabels (r : DeviceRequest) : TextMap :=
  match r.selectors with
  | some selectors => r.nodeAffinity.union selectors
  | none => r.nodeAffinity

/-- The claim for a request. -/
def toClaim (r : DeviceRequest) (ns : String) : BlockDeviceClaim where
  metadata :=
    { name := some (claimName r.volume)
      ns := some ns
      finalizers := some [localFinalizer] }
  spec :=
    { requests := (r.capacity.map (KeyMap.singleton "storage")).getD .empty
      node := { hostName := r.hostname }
      mode := if r.raw then .block else .fileSystem
      matchLabels := some r.matchLabels }

end DeviceRequest
end NodeVolumes.Device
