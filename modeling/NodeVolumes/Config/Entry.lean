import NodeVolumes.Json
import NodeVolumes.Yaml.Field

/-! # Configuration entries

An entry has a name and says something in up to four forms: a value, a switch, data under keys, and
a list. Scalars of every kind are kept as text.

* `ConfigEntry.ofNode` reads an entry from a YAML mapping.
* `ConfigEntry.ofJson` and `ConfigEntry.toJson` read and write it as JSON. -/

namespace NodeVolumes

/-- A named entry of the configuration. -/
structure ConfigEntry where
  name : String
  value : Option String
  /-- The switch as it is written. -/
  enabled : Option String
  data : Option TextMap
  list : Option (List String)
  deriving DecidableEq, Repr

namespace ConfigEntry

/-- The entry with nothing but a value. -/
def ofValue (name value : String) : ConfigEntry := ⟨name, some value, none, none, none⟩

/-- The names of the fields of an entry. -/
def fieldNames : List String := ["name", "value", "enabled", "data", "list"]

/-- Reads data: a mapping from keys to scalars; of several with one key the last counts. -/
def readData (n : Yaml.Node) : Yaml.Reading TextMap := do
  return KeyMap.ofList (← (← n.fields).mapM fun (key, v) => return (key, ← v.value))

/-- Reads a list of scalars, each as it is written. -/
def readList (n : Yaml.Node) : Yaml.Reading (List String) := do (← n.items).mapM (·.text)

/-- Reads an entry. A field may stand once; fields with other names do not count. -/
def ofNode (n : Yaml.Node) : Yaml.Reading ConfigEntry := do
  let fields ← n.fields
  if fieldNames.any fun f => 1 < fields.countP (·.1 == f) then failure
  let name ← (← (fields.lookup "name" : Option Yaml.Node)).text
  let value ← Yaml.Node.optionalField fields "value" (·.value)
  let enabled ← Yaml.Node.optionalField fields "enabled" (·.value)
  let data ← Yaml.Node.optionalField fields "data" readData
  let list ← Yaml.Node.optionalField fields "list" readList
  return ⟨name, value, enabled, data, list⟩

/-! ### Entries as JSON -/

/-- A number as text: a whole one as it is while it fits into a signed word of 64 bits, any other as a
number of double precision that is found in steps, of which zero has a sign. -/
def numberText (d : Decimal) : String :=
  let sign := if d.negative then "-" else ""
  let bound := if d.negative then UInt64.size / 2 else UInt64.size / 2 - 1
  if d.power = 0 ∧ d.digits ≤ bound then sign ++ toString d.digits
  else match d.inSteps with
    | .finite q => sign ++ Decimal.render q
    | _ => sign ++ "inf"

/-- A scalar as text. -/
def scalarText? : Json → Option String
  | .string s => some s
  | .bool b => some (if b then "true" else "false")
  | .number d => some (numberText d)
  | _ => none

/-- The data that a JSON object describes. -/
def dataOfJson (j : Json) : TextMap :=
  KeyMap.ofList (j.members.filterMap fun (key, v) => (scalarText? v).map fun text => (key, text))

/-- The entry that a JSON object describes, or an array of the values of its fields. -/
def ofJson (j : Json) : ConfigEntry :=
  let j : Json := match j with
    | .array values => .object (fieldNames.zip values)
    | j => j
  { name := j.textD "name"
    value := (j.member? "value").bind scalarText?
    enabled := (j.member? "enabled").bind scalarText?
    data := j.read "data" dataOfJson
    list := j.texts "list" }

example : ofJson (.array [.string "a", .bool true]) = ofValue "a" "true" := by decide +kernel

/-- An entry as JSON. -/
def toJson (e : ConfigEntry) : Json :=
  Json.ofFields
    [("name", some (.string e.name)), ("value", e.value.map .string),
      ("enabled", e.enabled.map .string), ("data", e.data.map Json.ofTextMap),
      ("list", e.list.map Json.ofTexts)]

end ConfigEntry
end NodeVolumes
