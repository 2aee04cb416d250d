import NodeVolumes.Object.BlockDevice

/-! # Claims for block devices

The wish to use one block device. The device manager of the node writes the name of the device into
the claim once it has found one.

* `BlockDeviceClaim.boundDevice?` tells the device that a claim is bound to.
* `BlockDeviceClaim.removeFinalizer` drops every occurrence of a finalizer. -/

namespace NodeVolumes

/-- The finalizer on every claim of this program: the claim outlives its deletion until it is
removed. -/
def localFinalizer : String := "local.openebs.io/finalizer"

/-- How a claimed device is used. -/
inductive DeviceMode where
  | fileSystem
  | block
  deriving DecidableEq, Repr

namespace DeviceMode

/-- The name of a mode. -/
def name : DeviceMode → String
  | fileSystem => "FileSystem"
  | block => "Block"

/-- The mode with a name; a file system unless it says otherwise. -/
def ofName (s : String) : DeviceMode := if s = "Block" then block else fileSystem

end DeviceMode

/-- Whether a claim has its device. -/
inductive DeviceClaimPhase where
  | pending
  | bound
  deriving DecidableEq, Repr

namespace DeviceClaimPhase

/-- The name of a phase. -/
def name : DeviceClaimPhase → String
  | pending => "Pending"
  | bound => "Bound"

/-- The phase with a name; pending unless it says otherwise. -/
def ofName (s : String) : DeviceClaimPhase := if s = "Bound" then bound else pending

end DeviceClaimPhase

/-- What a device claim asks for. -/
structure BlockDeviceClaimSpec where
  /-- The requested amounts by resource. -/
  requests : TextMap := .empty
  /-- The name of the bound device, empty before. -/
  deviceName : String := ""
  node : DeviceNode := {}
  mode : DeviceMode := .fileSystem
  /-- The labels that the device must carry. -/
  matchLabels : Option TextMap := none
  deriving DecidableEq, Repr

namespace BlockDeviceClaimSpec

/-- The specification that a JSON value describes. -/
def ofJson (j : Json) : BlockDeviceClaimSpec :=
  let j := Schema.blockDeviceClaimSpec.tidy j
  let mode := (j.member? "deviceClaimDetails").bind (·.text "blockVolumeMode")
  { requests := ((j.member? "resources").bind (·.read "requests" Json.toTextMap)).getD .empty
    deviceName := j.textD "blockDeviceName"
    node := (j.read "blockDeviceNodeAttributes" DeviceNode.ofJson).getD {}
    mode := DeviceMode.ofName (mode.getD "")
    matchLabels := j.read "selector" fun s => (s.read "matchLabels" Json.toTextMap).getD .empty }

/-- A specification as JSON. -/
def toJson (s : BlockDeviceClaimSpec) : Json :=
  Json.ofFields
    [("resources", some (Json.ofFields [("requests", some (Json.ofTextMap s.requests))])),
      ("blockDeviceName", some (.string s.deviceName)),
      ("blockDeviceNodeAttributes", some s.node.toJson),
      ("deviceClaimDetails", some (Json.ofFields [("blockVolumeMode", some (.string s.mode.name))])),
      ("selector", s.matchLabels.map fun labels =>
        Json.ofFields [("matchLabels", some (Json.ofTextMap labels))])]

end BlockDeviceClaimSpec

/-- A claim for a block device. -/
structure BlockDeviceClaim where
  metadata : Metadata
  spec : BlockDeviceClaimSpec
  phase : Option DeviceClaimPhase := none
  deriving DecidableEq, Repr

namespace BlockDeviceClaim

/-- The claim that a JSON object describes. -/
def ofJson (j : Json) : BlockDeviceClaim where
  metadata := Metadata.ofObject j
  spec := (j.read "spec" BlockDeviceClaimSpec.ofJson).getD {}
  phase := j.read "status" fun s =>
    DeviceClaimPhase.ofName ((Schema.blockDeviceClaimStatus.tidy s).textD "phase")

/-- A claim as JSON. -/
def toJson (c : BlockDeviceClaim) : Json :=
  Json.ofObject .blockDeviceClaim c.metadata
    [("spec", some c.spec.toJson),
      ("status", c.phase.map fun p => Json.ofFields [("phase", some (.string p.name))])]

/-- The trimmed name of the bound device, unless it is blank. -/
def boundDevice? (c : BlockDeviceClaim) : Option String :=
  let device := Text.trim c.spec.deviceName
  if device = "" then none else some device

/-- Tells whether a claim carries a finalizer. -/
def hasFinalizer (c : BlockDeviceClaim) (finalizer : String) : Bool :=
  (c.metadata.finalizers.getD []).contains finalizer

/-- The claim without any occurrence of a finalizer. -/
def removeFinalizer (c : BlockDeviceClaim) (finalizer : String) : BlockDeviceClaim :=
  { c with metadata := { c.metadata with
      finalizers := c.metadata.finalizers.map fun fs => fs.filter fun f => !decide (f = finalizer) } }

/-- The claim bound to a device. -/
def bindTo (c : BlockDeviceClaim) (device : String) : BlockDeviceClaim :=
  { c with spec := { c.spec with deviceName := device } }

end BlockDeviceClaim
end NodeVolumes
