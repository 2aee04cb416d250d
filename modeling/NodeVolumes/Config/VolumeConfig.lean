import NodeVolumes.Config.Layer
import NodeVolumes.Config.Settings
import NodeVolumes.HostPath.Path
import NodeVolumes.HostPath.Quota

/-! # The configuration of one volume

Three layers, the defaults, the storage class and the claim, are merged to one view with an accessor
for each thing that an entry can decide.

* `VolumeConfig.resolve` merges the layers, and refuses broken ones and options that are no longer
  supported.
* `VolumeConfig.storageKind`, `path` and `mode` check what they return; `quotaGrace?` gives the
  settings of a quota as they are written. -/

namespace NodeVolumes

/-- How a volume is stored on its node. -/
inductive StorageKind where
  /-- A directory below a base path. -/
  | hostPath
  /-- A whole block device. -/
  | device
  deriving DecidableEq, Repr

namespace StorageKind

/-- The name of a kind in the configuration and in messages. -/
def name : StorageKind → String
  | hostPath => "hostpath"
  | device => "device"

/-- The name of a kind in the label of a persistent volume. -/
def label : StorageKind → String
  | hostPath => "local-hostpath"
  | device => "local-device"

/-- The kind with a name. -/
def ofName (s : String) : Except Error StorageKind :=
  if s = "hostpath" then .ok hostPath
  else if s = "device" then .ok device
  else .error (.unsupportedStorageType s)

theorem ofName_name (k : StorageKind) : ofName k.name = .ok k := by cases k <;> rfl

end StorageKind

/-! ### Names of entries -/

/-- The entry that decides the storage kind. -/
def storageTypeKey : String := "StorageType"

/-- The entry that decides the file system of a device. -/
def fsTypeKey : String := "FSType"

/-- The entry that lists the node labels to pin a volume by. -/
def affinityLabelsKey : String := "NodeAffinityLabels"

/-- The entry that selects block devices by their labels. -/
def deviceSelectorsKey : String := "BlockDeviceSelectors"

/-- The entry that sets a quota on XFS. -/
def xfsQuotaKey : String := "XFSQuota"

/-- The entry that sets a quota on ext4. -/
def ext4QuotaKey : String := "EXT4Quota"

/-- The entry that decides the mode of a volume directory. -/
def permissionsKey : String := "FilePermissions"

/-- Entries that are refused, each with the entry that took its place. -/
def deprecatedKeys : List (String × String) :=
  [("BlockDeviceTag", deviceSelectorsKey), ("NodeAffinityLabel", affinityLabelsKey)]

/-- The mode of a volume directory unless another one is set. -/
def defaultMode : String := "0777"

/-! ### The merged view -/

/-- The merged configuration of one volume. -/
structure VolumeConfig where
  volume : String
  entries : KeyMap String ConfigEntry
  deriving DecidableEq, Repr

namespace VolumeConfig

/-- The configuration of merged entries; of several with one name the last counts. -/
def ofEntries (volume : String) (entries : List ConfigEntry) : VolumeConfig :=
  ⟨volume, KeyMap.ofList (entries.map fun e => (e.name, e))⟩

/-- The trimmed value of an entry, empty when there is none. -/
def value (c : VolumeConfig) (key : String) : String :=
  match (c.entries.get? key).bind (·.value) with
  | some v => Text.trim v
  | none => ""

/-- The value of an entry unless it is blank. -/
def value? (c : VolumeConfig) (key : String) : Option String :=
  if c.value key = "" then none else some (c.value key)

/-- The spellings that switch an entry on. -/
def isOn (s : String) : Bool :=
  s == "1" || s == "t" || s == "T" || s == "true" || s == "TRUE" || s == "True"

/-- Tells whether an entry is switched on. -/
def enabled (c : VolumeConfig) (key : String) : Bool :=
  match (c.entries.get? key).bind (·.enabled) with
  | some s => isOn (Text.trim s)
  | none => false

/-- The data of an entry. -/
def data? (c : VolumeConfig) (key : String) : Option TextMap :=
  (c.entries.get? key).bind (·.data)

/-- One trimmed field of an entry's data, empty when there is none. -/
def dataField (c : VolumeConfig) (key field : String) : String :=
  match (c.data? key).bind (·.get? field) with
  | some v => Text.trim v
  | none => ""

/-- Refuses a configuration that gives a value to a deprecated entry. -/
def rejectDeprecated (c : VolumeConfig) : Except Error Unit :=
  match deprecatedKeys.find? fun d => c.value d.1 ≠ "" with
  | some (key, replacement) => .error (.deprecatedOption key replacement)
  | none => .ok ()

/-- Merges the defaults with the layers of the storage class and of the claim. -/
def resolve (volume : String) (defaults : List ConfigEntry) (classLayer claimLayer : String) :
    Except Error VolumeConfig := do
  let fromClass ← readLayer "storageclass" classLayer
  let fromClaim ← readLayer "pvc" claimLayer
  let config := ofEntries volume (merge (merge defaults fromClass) fromClaim)
  config.rejectDeprecated
  return config

/-! ### Accessors -/

/-- The name of the storage kind, of directories when none is set. -/
def storageType (c : VolumeConfig) : String := (c.value? storageTypeKey).getD StorageKind.hostPath.name

/-- The storage kind. -/
def storageKind (c : VolumeConfig) : Except Error StorageKind := StorageKind.ofName c.storageType

/-- The base path. -/
def basePath? (c : VolumeConfig) : Option String := c.value? basePathKey

/-- The path of the volume's directory. -/
def path (c : VolumeConfig) : Except Error String :=
  match c.basePath? with
  | none => .error (.configuration "failed to get path: base path is empty")
  | some base => HostPath.buildPath base c.volume

/-- The file system of a device; none lets it be detected. -/
def fsType? (c : VolumeConfig) : Option String := c.value? fsTypeKey

/-- The node labels to pin the volume by, if the configuration lists any. -/
def affinityLabels? (c : VolumeConfig) : Option (List String) :=
  ((c.entries.get? affinityLabelsKey).bind (·.list)).filter (· ≠ [])

/-- The labels that select block devices. -/
def deviceSelectors? (c : VolumeConfig) : Option TextMap := c.data? deviceSelectorsKey

/-- The quota entry that is switched on, the one for XFS first. -/
def quotaKey? (c : VolumeConfig) : Option String :=
  [xfsQuotaKey, ext4QuotaKey].find? c.enabled

/-- The grace settings of the quota that is switched on. -/
def quotaGrace? (c : VolumeConfig) : Option HostPath.QuotaGrace :=
  c.quotaKey?.map fun key => ⟨c.dataField key "softLimitGrace", c.dataField key "hardLimitGrace"⟩

/-- Tells the modes that a directory can have: three or four octal digits. -/
def isDirectoryMode (mode : String) : Bool :=
  3 ≤ mode.length && mode.length ≤ 4 && mode.toList.all fun c => '0' ≤ c && c ≤ '7'

/-- The mode of the volume's directory. -/
def mode (c : VolumeConfig) : Except Error String :=
  let mode := c.dataField permissionsKey "mode"
  if mode = "" then .ok defaultMode
  else if isDirectoryMode mode then .ok mode
  else .error (.configuration ("invalid " ++ permissionsKey ++ " mode " ++ Text.quoted mode ++
    ": expected 3 or 4 octal digits"))

end VolumeConfig
end NodeVolumes
