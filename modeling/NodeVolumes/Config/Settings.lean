import NodeVolumes.Config.Entry
import NodeVolumes.Error
import NodeVolumes.Text.Blank

/-! # Settings of the process

What the command line decides once for all volumes.

* `Settings.check` refuses settings under which no volume can be served.
* `Settings.defaultLayer` is the lowest configuration layer. -/

namespace NodeVolumes

/-- The name of the entry that holds the base path. -/
def basePathKey : String := "BasePath"

/-- The image of helper pods unless another one is set. -/
def defaultHelperImage : String := "openebs/linux-utils:latest"

/-- The base path of volumes unless another one is set. -/
def defaultBasePath : String := "/var/openebs/local"

/-- The settings of the process. -/
structure Settings where
  /-- The namespace of helper pods and device claims. -/
  ns : String := "openebs"
  helperImage : String := defaultHelperImage
  basePath : String := defaultBasePath
  /-- The service account of helper pods. -/
  serviceAccount : String := ""
  imagePullSecrets : List String := []
  /-- Whether helper pods use the network of their node. -/
  helperHostNetwork : Bool := false
  /-- Milliseconds between two looks at a helper pod. -/
  helperPollMs : Nat := 1000
  /-- The number of looks at a helper pod before it is given up. -/
  helperPollCount : Nat := 120
  /-- Milliseconds between two looks at a device claim. -/
  claimPollMs : Nat := 5000
  /-- The number of looks at a device claim before it is given up. -/
  claimRetryCount : Nat := 12
  deriving DecidableEq, Repr

namespace Settings

/-- Refuses settings without a namespace or a helper image. -/
def check (s : Settings) : Except Error Unit :=
  if Text.trim s.ns = "" then
    .error (.configuration "Cannot start Provisioner: failed to get namespace")
  else if Text.trim s.helperImage = "" then .error (.configuration "helper image is empty")
  else .ok ()

/-- The lowest configuration layer: the base path. -/
def defaultLayer (s : Settings) : List ConfigEntry := [.ofValue basePathKey s.basePath]

end Settings

/-- The names in a list that is written with commas; blank ones do not count. -/
def readNames (raw : String) : List String :=
  ((raw.toList.splitOn ',').map fun cs => Text.trim (String.ofList cs)).filter (· ≠ "")

end NodeVolumes
