import NodeVolumes.Device.Provision

/-! # Provisioning and deleting volumes

The entry point of the engine. A request is checked, its configuration resolved, and the volume made in
the way that the configuration decides. A persistent volume is deleted in the way that its record names.

* `provision` and `delete` tell the outcome of each call, and log failures.
* `planVolume` decides everything about a volume before it is made. -/

namespace NodeVolumes

/-- The configuration layer in the annotations of an object, empty when there is none. -/
def configLayer (m : Metadata) : String := (m.annotation? configLayerKey).getD ""

/-- The storage kind of a volume. Only devices can be used as raw devices. -/
def chooseKind (request : ProvisionRequest) (config : VolumeConfig) : Except Error StorageKind :=
  if config.storageType = StorageKind.device.name then .ok .device
  else if request.isBlock then
    .error (.invalidRequest
      ("PV with BlockMode is not supported with StorageType " ++ config.storageType))
  else config.storageKind

/-- What is decided about a volume by its request and storage class. -/
def planFor (settings : Settings) (request : ProvisionRequest) (cls : StorageClass) :
    Except Error Plan := do
  let config ← VolumeConfig.resolve request.volume settings.defaultLayer (configLayer cls.metadata)
    (configLayer request.claim.metadata)
  let kind ← chooseKind request config
  return {
    config
    kind
    storageClass := cls.metadata.nameD
    reclaimPolicy := cls.reclaimPolicy.getD deletePolicy }

/-- Checks a request and decides about its volume. -/
def planVolume (settings : Settings) (request : ProvisionRequest) : Attempt Plan := do
  Attempt.check request.check
  match request.storageClass? with
  | none =>
    throw (.invalidRequest ("storage class name missing on claim " ++ request.claimName))
  | some name => Attempt.check (planFor settings request (← Attempt.call (.getStorageClass name)))

/-- Makes a volume as planned. -/
def makeVolume (settings : Settings) (request : ProvisionRequest) (plan : Plan) :
    Attempt LocalVolume :=
  match plan.kind with
  | .hostPath => HostPath.provision settings request plan
  | .device => Device.provision settings request plan

/-- Removes a volume by its record. -/
def removeVolume (settings : Settings) (record : VolumeRecord) : Attempt Unit :=
  match record.kind with
  | .hostPath => HostPath.delete settings record
  | .device => Device.delete settings record

/-- The name of a storage kind that may not have been found out. -/
def kindLabel (kind : Option StorageKind) : String := (kind.map (·.name)).getD "unknown"

/-- Tells the outcome of a provision call and gives it. -/
def reportProvision (volume : String) (kind : Option StorageKind)
    (result : Except Error LocalVolume) : Engine (Except Error LocalVolume) := do
  match result with
  | .ok _ => pure ()
  | .error e =>
    Program.tell (.log .error ("Failed to provision Local PV " ++ volume ++ " (storage type " ++
      kindLabel kind ++ "): " ++ e.message))
  Program.tell (.provisioned kind result.isOk)
  return result

/-- Provisions a volume for a request. -/
def provision (settings : Settings) (request : ProvisionRequest) :
    Engine (Except Error LocalVolume) := do
  match ← (planVolume settings request).run with
  | .error e => reportProvision request.volume none (.error e)
  | .ok plan =>
    reportProvision request.volume (some plan.kind) (← (makeVolume settings request plan).run)

/-- Tells the outcome of a delete call and gives it. -/
def reportDelete (record : VolumeRecord) (result : Except Error Unit) :
    Engine (Except Error Unit) := do
  match result with
  | .ok _ => pure ()
  | .error e =>
    Program.tell (.log .error ("Failed to delete volume " ++ record.name ++ " (storage type " ++
      record.kind.name ++ "): " ++ e.message))
  Program.tell (.deleted record.kind result.isOk)
  return result

/-- Deletes the volume of a persistent volume; one that is to be retained is left alone. -/
def delete (settings : Settings) (pv : PersistentVolume) : Engine (Except Error Unit) :=
  match VolumeRecord.ofPersistentVolume pv with
  | .error e => pure (.error e)
  | .ok record =>
    if record.isRetained then pure (.ok ())
    else do reportDelete record (← (removeVolume settings record).run)

end NodeVolumes
