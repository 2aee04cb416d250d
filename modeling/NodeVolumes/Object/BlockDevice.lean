import NodeVolumes.Object.Metadata
import NodeVolumes.Object.Schema.BlockDevice
import NodeVolumes.Text.Blank

/-! # Block devices

A disk, partition or other raw device of a node, as the device manager of the node reports it.

* `BlockDevice.mountPoint?` and `BlockDevice.blockPath` tell where a device can be used. -/

namespace NodeVolumes

/-- The node that a device is attached to. -/
structure DeviceNode where
  nodeName : String := ""
  hostName : String := ""
  deriving DecidableEq, Repr

namespace DeviceNode

/-- The text unless it is empty. -/
def given (s : String) : Option Json := if s = "" then none else some (.string s)

/-- The node that a JSON object describes. -/
def ofJson (j : Json) : DeviceNode := ⟨j.textD "nodeName", j.textD "hostName"⟩

/-- A node of a device as JSON, without empty names. -/
def toJson (n : DeviceNode) : Json :=
  Json.ofFields [("nodeName", given n.nodeName), ("hostName", given n.hostName)]

end DeviceNode

/-- Links of one kind to a device. -/
structure DeviceLinks where
  kind : String := ""
  links : List String := []
  deriving DecidableEq, Repr

namespace DeviceLinks

/-- The links that a JSON object describes. -/
def ofJson (j : Json) : DeviceLinks := ⟨j.textD "kind", (j.texts "links").getD []⟩

/-- Links as JSON. -/
def toJson (l : DeviceLinks) : Json :=
  Json.ofFields [("kind", some (.string l.kind)), ("links", some (Json.ofTexts l.links))]

end DeviceLinks

/-- The file system on a device. -/
structure DeviceFileSystem where
  fsType : Option String := none
  mountPoint : Option String := none
  deriving DecidableEq, Repr

namespace DeviceFileSystem

/-- The file system that a JSON object describes. -/
def ofJson (j : Json) : DeviceFileSystem := ⟨j.text "fsType", j.text "mountPoint"⟩

/-- A file system as JSON. -/
def toJson (f : DeviceFileSystem) : Json :=
  Json.ofFields [("fsType", f.fsType.map .string), ("mountPoint", f.mountPoint.map .string)]

end DeviceFileSystem

/-- What a device is. -/
structure BlockDeviceSpec where
  /-- The path that the node's kernel gives it. -/
  path : String := ""
  /-- Its size in bytes. -/
  storage : Int := 0
  devlinks : List DeviceLinks := []
  fileSystem : DeviceFileSystem := {}
  node : DeviceNode := {}
  deriving DecidableEq, Repr

namespace BlockDeviceSpec

/-- The specification that a JSON value describes. -/
def ofJson (j : Json) : BlockDeviceSpec :=
  let j := Schema.blockDeviceSpec.tidy j
  { path := j.textD "path"
    storage := (((j.member? "capacity").bind (·.member? "storage")).bind Json.int?).getD 0
    devlinks := (j.readAll "devlinks" DeviceLinks.ofJson).getD []
    fileSystem := (j.read "filesystem" DeviceFileSystem.ofJson).getD {}
    node := (j.read "nodeAttributes" DeviceNode.ofJson).getD {} }

/-- A specification as JSON. -/
def toJson (s : BlockDeviceSpec) : Json :=
  Json.ofFields
    [("path", some (.string s.path)),
      ("capacity", some (Json.ofFields [("storage", some (Json.ofInt s.storage))])),
      ("devlinks", some (Json.ofList DeviceLinks.toJson s.devlinks)),
      ("filesystem", some s.fileSystem.toJson),
      ("nodeAttributes", some s.node.toJson)]

end BlockDeviceSpec

/-- How a device is doing. -/
structure BlockDeviceStatus where
  claimState : String := ""
  state : String := ""
  deriving DecidableEq, Repr

namespace BlockDeviceStatus

/-- The status that a JSON value describes. -/
def ofJson (j : Json) : BlockDeviceStatus :=
  let j := Schema.blockDeviceStatus.tidy j
  ⟨j.textD "claimState", j.textD "state"⟩

/-- A status as JSON. -/
def toJson (s : BlockDeviceStatus) : Json :=
  Json.ofFields [("claimState", some (.string s.claimState)), ("state", some (.string s.state))]

end BlockDeviceStatus

/-- A block device of a node. -/
structure BlockDevice where
  metadata : Metadata
  spec : BlockDeviceSpec
  status : Option BlockDeviceStatus := none
  deriving DecidableEq, Repr

namespace BlockDevice

/-- The device that a JSON object describes. -/
def ofJson (j : Json) : BlockDevice where
  metadata := Metadata.ofObject j
  spec := (j.read "spec" BlockDeviceSpec.ofJson).getD {}
  status := j.read "status" .ofJson

/-- A device as JSON. -/
def toJson (d : BlockDevice) : Json :=
  Json.ofObject .blockDevice d.metadata
    [("spec", some d.spec.toJson), ("status", d.status.map BlockDeviceStatus.toJson)]

end BlockDevice

/-! ### Where a device can be used -/

namespace BlockDeviceSpec

/-- The trimmed mount point of the file system, unless it is blank. -/
def mountPoint? (s : BlockDeviceSpec) : Option String :=
  (s.fileSystem.mountPoint.map Text.trim).filter (· ≠ "")

/-- The first link of the groups that satisfy `p`. -/
def firstLink? (s : BlockDeviceSpec) (p : DeviceLinks → Bool) : Option String :=
  (s.devlinks.filter p).findSome? (·.links.head?)

/-- The path of the raw device: a link by its identity first, then any link, then the path that the
kernel gives it. -/
def blockPath (s : BlockDeviceSpec) : String :=
  ((s.firstLink? (·.kind = "by-id")).or (s.firstLink? fun _ => true)).getD s.path

/-- The path at which a volume on the device is used: the mount point if there is one. -/
def volumePath (s : BlockDeviceSpec) : String := s.mountPoint?.getD s.blockPath

end BlockDeviceSpec
end NodeVolumes
