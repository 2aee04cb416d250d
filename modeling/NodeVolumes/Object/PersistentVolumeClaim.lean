import NodeVolumes.Object.Metadata
import NodeVolumes.Object.Selector

/-! # Claims for volumes

What a user asks for: a size, access modes and a storage class. -/

namespace NodeVolumes

/-- An object that a volume is to be filled from. -/
structure DataSource where
  apiGroup : Option String := none
  kind : String
  name : String
  deriving DecidableEq, Repr

namespace DataSource

/-- The source that a JSON object describes. -/
def ofJson (j : Json) : DataSource := ⟨j.text "apiGroup", j.textD "kind", j.textD "name"⟩

/-- A source as JSON. -/
def toJson (d : DataSource) : Json :=
  Json.ofFields
    [("apiGroup", d.apiGroup.map .string), ("kind", some (.string d.kind)),
      ("name", some (.string d.name))]

end DataSource

/-- A choice of objects by their labels. -/
structure LabelSelector where
  matchLabels : Option TextMap := none
  matchExpressions : Option (List SelectorRequirement) := none
  deriving DecidableEq, Repr

namespace LabelSelector

/-- The selector that a JSON object describes. -/
def ofJson (j : Json) : LabelSelector :=
  ⟨j.read "matchLabels" Json.toTextMap, j.readAll "matchExpressions" .ofJson⟩

/-- A selector as JSON. -/
def toJson (s : LabelSelector) : Json :=
  Json.ofFields
    [("matchLabels", s.matchLabels.map Json.ofTextMap),
      ("matchExpressions", s.matchExpressions.map (Json.ofList SelectorRequirement.toJson))]

end LabelSelector

/-- Amounts by resource. -/
structure ResourceAmounts where
  requests : Option TextMap := none
  limits : Option TextMap := none
  deriving DecidableEq, Repr

namespace ResourceAmounts

/-- The amounts that a JSON object describes. -/
def ofJson (j : Json) : ResourceAmounts :=
  ⟨j.read "requests" Json.toTextMap, j.read "limits" Json.toTextMap⟩

/-- Amounts as JSON. -/
def toJson (r : ResourceAmounts) : Json :=
  Json.ofFields [("requests", r.requests.map Json.ofTextMap), ("limits", r.limits.map Json.ofTextMap)]

end ResourceAmounts

/-- What a claim asks for. -/
structure ClaimSpec where
  accessModes : Option (List String) := none
  dataSource : Option DataSource := none
  selector : Option LabelSelector := none
  resources : Option ResourceAmounts := none
  storageClassName : Option String := none
  volumeMode : Option String := none
  volumeName : Option String := none
  deriving DecidableEq, Repr

namespace ClaimSpec

/-- The specification that a JSON object describes. -/
def ofJson (j : Json) : ClaimSpec where
  accessModes := j.texts "accessModes"
  dataSource := j.read "dataSource" .ofJson
  selector := j.read "selector" .ofJson
  resources := j.read "resources" .ofJson
  storageClassName := j.text "storageClassName"
  volumeMode := j.text "volumeMode"
  volumeName := j.text "volumeName"

/-- A specification as JSON. -/
def toJson (s : ClaimSpec) : Json :=
  Json.ofFields
    [("accessModes", s.accessModes.map Json.ofTexts),
      ("dataSource", s.dataSource.map DataSource.toJson),
      ("selector", s.selector.map LabelSelector.toJson),
      ("resources", s.resources.map ResourceAmounts.toJson),
      ("storageClassName", s.storageClassName.map .string),
      ("volumeMode", s.volumeMode.map .string),
      ("volumeName", s.volumeName.map .string)]

end ClaimSpec

/-- How a claim is doing. -/
structure ClaimStatus where
  phase : Option String := none
  deriving DecidableEq, Repr

/-- A claim for a volume. -/
structure PersistentVolumeClaim where
  metadata : Metadata
  spec : Option ClaimSpec := none
  status : Option ClaimStatus := none
  deriving DecidableEq, Repr

namespace PersistentVolumeClaim

/-- The claim that a JSON object describes. -/
def ofJson (j : Json) : PersistentVolumeClaim where
  metadata := Metadata.ofObject j
  spec := j.read "spec" .ofJson
  status := j.read "status" fun s => ⟨s.text "phase"⟩

/-- A claim as JSON. -/
def toJson (c : PersistentVolumeClaim) : Json :=
  Json.ofObject .persistentVolumeClaim c.metadata
    [("spec", c.spec.map ClaimSpec.toJson),
      ("status", c.status.map fun s => Json.ofFields [("phase", s.phase.map .string)])]

end PersistentVolumeClaim
end NodeVolumes
