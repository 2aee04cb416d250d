import NodeVolumes.Json

/-! # Selectors of nodes

A node selector is a list of terms, of which one has to hold; a term is a list of requirements on
labels or fields, which have to hold together.

* `NodeSelector.ofLabels` requires every label of a map to have its value.
* `NodeSelector.toLabels` reads such a map back from any selector. -/

namespace NodeVolumes

/-- A requirement on the value of one label or field. -/
structure SelectorRequirement where
  key : String
  operator : String
  values : Option (List String) := none
  deriving DecidableEq, Repr

/-- Requirements that have to hold together. -/
structure SelectorTerm where
  matchExpressions : Option (List SelectorRequirement) := none
  matchFields : Option (List SelectorRequirement) := none
  deriving DecidableEq, Repr

/-- Terms of which one has to hold. -/
structure NodeSelector where
  terms : List SelectorTerm
  deriving DecidableEq, Repr

namespace SelectorRequirement

/-- The requirement that a label has a value. -/
def isIn (key value : String) : SelectorRequirement := ⟨key, "In", some [value]⟩

/-- The label with the first value that a requirement allows, if it lists allowed values. -/
def label? (r : SelectorRequirement) : Option (String × String) :=
  if r.operator = "In" then (r.values.bind List.head?).map fun v => (r.key, v) else none

/-- The requirement that a JSON object describes. -/
def ofJson (j : Json) : SelectorRequirement := ⟨j.textD "key", j.textD "operator", j.texts "values"⟩

/-- A requirement as JSON. -/
def toJson (r : SelectorRequirement) : Json :=
  Json.ofFields
    [("key", some (.string r.key)), ("operator", some (.string r.operator)),
      ("values", r.values.map Json.ofTexts)]

@[simp] theorem label?_isIn (key value : String) : (isIn key value).label? = some (key, value) := rfl

end SelectorRequirement

namespace SelectorTerm

/-- The term that a JSON object describes. -/
def ofJson (j : Json) : SelectorTerm :=
  ⟨j.readAll "matchExpressions" .ofJson, j.readAll "matchFields" .ofJson⟩

/-- A term as JSON. -/
def toJson (t : SelectorTerm) : Json :=
  Json.ofFields
    [("matchExpressions", t.matchExpressions.map (Json.ofList SelectorRequirement.toJson)),
      ("matchFields", t.matchFields.map (Json.ofList SelectorRequirement.toJson))]

end SelectorTerm

namespace NodeSelector

/-- The selector that requires every label of a map to have its value. -/
def ofLabels (labels : TextMap) : NodeSelector :=
  ⟨[⟨some (labels.toList.map fun (key, v) => SelectorRequirement.isIn key v), none⟩]⟩

/-- The labels that a selector requires, each with the first value allowed for it. -/
def toLabels (s : NodeSelector) : TextMap :=
  KeyMap.ofList ((s.terms.flatMap fun t => t.matchExpressions.getD []).filterMap (·.label?))

/-- The selector that a JSON object describes. -/
def ofJson (j : Json) : NodeSelector :=
  ⟨(j.readAll "nodeSelectorTerms" SelectorTerm.ofJson).getD []⟩

/-- A selector as JSON. -/
def toJson (s : NodeSelector) : Json :=
  Json.ofFields [("nodeSelectorTerms", some (Json.ofList SelectorTerm.toJson s.terms))]

end NodeSelector
end NodeVolumes
