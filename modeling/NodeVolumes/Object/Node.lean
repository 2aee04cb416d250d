import NodeVolumes.Object.Metadata
import NodeVolumes.Object.Schema.Node

/-! # Nodes

A node carries labels, by which volumes and helper pods are pinned to it, and taints, which keep pods
away that do not tolerate them. -/

namespace NodeVolumes

/-- What keeps pods away from a node. -/
structure Taint where
  key : String
  effect : String
  value : Option String := none
  timeAdded : Option Timestamp := none
  deriving DecidableEq, Repr

namespace Taint

/-- The taint that a JSON object describes. -/
def ofJson (j : Json) : Taint :=
  ⟨j.textD "key", j.textD "effect", j.text "value", j.time "timeAdded"⟩

/-- A taint as JSON. -/
def toJson (t : Taint) : Json :=
  Json.ofFields
    [("key", some (.string t.key)), ("effect", some (.string t.effect)),
      ("value", t.value.map .string), ("timeAdded", t.timeAdded.map Timestamp.toJson)]

end Taint

/-- What a node is set up to do. -/
structure NodeSpec where
  taints : Option (List Taint) := none
  /-- The members that the program does not look at, in normal form. -/
  further : List (String × Json) := []
  deriving DecidableEq, Repr

namespace NodeSpec

/-- The specification that a JSON object describes. -/
def ofJson (j : Json) : NodeSpec :=
  ⟨j.readAll "taints" Taint.ofJson, Schema.nodeSpec.further ["taints"] j⟩

/-- A specification as JSON. -/
def toJson (s : NodeSpec) : Json :=
  (Json.ofFields [("taints", s.taints.map (Json.ofList Taint.toJson))]).withMembers s.further

end NodeSpec

/-- A machine of the cluster. -/
structure Node where
  metadata : Metadata
  spec : Option NodeSpec := none
  /-- What the node reports of itself, in normal form. -/
  status : Option Json := none
  deriving DecidableEq, Repr

namespace Node

/-- The node that a JSON object describes. -/
def ofJson (j : Json) : Node where
  metadata := Metadata.ofObject j
  spec := j.read "spec" .ofJson
  status := (j.member? "status").bind Schema.nodeStatus.normal?

/-- A node as JSON. -/
def toJson (n : Node) : Json :=
  Json.ofObject .node n.metadata
    [("spec", n.spec.map NodeSpec.toJson), ("status", n.status)]

/-- The value of a label, empty when there is none. -/
def label (n : Node) (key : String) : String := (n.metadata.label? key).getD ""

/-- The taints of a node. -/
def taints (n : Node) : List Taint := (n.spec.bind (·.taints)).getD []

/-- Tells whether a node carries all labels of a map. -/
def carries (n : Node) (labels : TextMap) : Bool :=
  labels.toList.all fun (key, v) => n.metadata.label? key = some v

end Node
end NodeVolumes
