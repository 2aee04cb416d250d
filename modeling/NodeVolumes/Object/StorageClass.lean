import NodeVolumes.Object.Metadata
import NodeVolumes.Object.Schema.Storage

/-! # Storage classes

A storage class names the provisioner that serves its claims and what becomes of their volumes. -/

namespace NodeVolumes

/-- A class of storage that claims ask for. -/
structure StorageClass where
  metadata : Metadata
  provisioner : String
  parameters : Option TextMap := none
  reclaimPolicy : Option String := none
  /-- The members that the program does not look at, in normal form. -/
  further : List (String × Json) := []
  deriving DecidableEq, Repr

namespace StorageClass

/-- The storage class that a JSON object describes. -/
def ofJson (j : Json) : StorageClass where
  metadata := Metadata.ofObject j
  provisioner := j.textD "provisioner"
  parameters := j.read "parameters" Json.toTextMap
  reclaimPolicy := j.text "reclaimPolicy"
  further := Schema.storageClass.further ["provisioner", "parameters", "reclaimPolicy"] j

/-- A storage class as JSON. -/
def toJson (c : StorageClass) : Json :=
  (Json.ofObject .storageClass c.metadata
    [("provisioner", some (.string c.provisioner)),
      ("parameters", c.parameters.map Json.ofTextMap),
      ("reclaimPolicy", c.reclaimPolicy.map .string)]).withMembers c.further

end StorageClass
end NodeVolumes
