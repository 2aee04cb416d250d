import NodeVolumes.Cluster.Call
import NodeVolumes.Config.Settings
import NodeVolumes.Device.Request

/-! # Device claims

Each device volume has one claim. A claim that an earlier call left behind is taken over; a claim that
finds no device within a limited number of looks is released again.

* `ensure` makes sure that the claim exists, `awaitDevice` waits for its device.
* `bind` does both and fetches the device.
* `release` drops the finalizer of a claim and deletes it. -/

namespace NodeVolumes.Device

/-- Makes sure that the claim for a request exists, and gives its name. -/
def ensure (settings : Settings) (request : DeviceRequest) : Attempt String := do
  Attempt.check request.check
  let name := claimName request.volume
  match ← Attempt.reply (.getClaim settings.ns name) with
  | .ok _ => return name
  | .error e =>
    if !e.isNotFound then throw e
    match ← Attempt.reply (.createClaim settings.ns (request.toClaim settings.ns)) with
    | .ok _ => return name
    | .error (.resourceExists ..) => return name
    | .error e => throw (.blockDeviceClaim name ("failed to create: " ++ e.message))

/-- Drops the finalizer of a claim and deletes it. A claim that does not exist counts as released; one
whose finalizer cannot be dropped is not deleted. -/
def release (settings : Settings) (claim : String) : Attempt Unit := do
  match ← Attempt.reply (.getClaim settings.ns claim) with
  | .error e => if e.isNotFound then return else throw e
  | .ok current =>
    if current.hasFinalizer localFinalizer then
      let _ ← Attempt.callOr (.replaceClaim settings.ns (current.removeFinalizer localFinalizer)) fun e =>
        .blockDeviceClaim claim ("unable to remove finalizer: " ++ e.message)
    match ← Attempt.reply (.deleteClaim settings.ns claim) with
    | .ok () => return
    | .error e =>
      if e.isNotFound then return
      else throw (.blockDeviceClaim claim ("unable to delete: " ++ e.message))

/-- Gives up on a claim that found no device: releases it, and only logs when that fails. -/
def abandon (settings : Settings) (claim volume : String) : Attempt Unit := do
  Attempt.warn ("Unable to find BD for BDC " ++ claim ++ " associated with PV " ++ volume ++
    ", deleting BDC")
  match ← (release settings claim).outcome with
  | .ok () => return
  | .error e => Attempt.warn ("Unable to delete BDC " ++ claim ++ ": " ++ e.message)

/-- Looks at a claim until it is bound, at most as often as is left, and gives the device. -/
def awaitDevice (settings : Settings) (claim volume : String) : Nat → Attempt String
  | 0 => do
    abandon settings claim volume
    throw (.noBlockDeviceFound claim volume)
  | left + 1 => do
    let current ← Attempt.callOr (.getClaim settings.ns claim) fun e =>
      .blockDeviceClaim claim
        ("unable to get BDC associated with PV " ++ volume ++ ": " ++ e.message)
    match current.boundDevice? with
    | some device => return device
    | none =>
      Attempt.waitOr settings.claimPollMs (.cancelled ("waiting on BDC " ++ claim))
      awaitDevice settings claim volume left

/-- Makes sure that a request is bound to a device, and gives claim and device. -/
def bind (settings : Settings) (request : DeviceRequest) : Attempt (String × BlockDevice) := do
  let claim ← ensure settings request
  let name ← awaitDevice settings claim request.volume settings.claimRetryCount
  let device ← Attempt.callOr (.getBlockDevice settings.ns name) fun e =>
    .blockDeviceClaim claim ("unable to find BD " ++ name ++ ": " ++ e.message)
  return (claim, device)

end NodeVolumes.Device
