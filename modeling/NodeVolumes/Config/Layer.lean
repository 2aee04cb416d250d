import NodeVolumes.Config.Entry
import NodeVolumes.Error
import NodeVolumes.Text.Blank

/-! # Configuration layers

A layer is a list of entries, written as a YAML sequence in an annotation of a storage class or of
a claim. An upper layer replaces the entries of a lower one that it names.

* `readLayer` reads a layer or fails as a whole.
* `merge` overlays a layer on another one. -/

namespace NodeVolumes

/-- The annotation of storage classes and claims that holds a layer. -/
def configLayerKey : String := "cas.openebs.io/config"

/-! ### Reading -/

/-- What is said of a layer that is not a YAML sequence of entries. -/
def malformedLayer : String := "<yaml>"

/-- What is said of a layer with a blank name. -/
def namelessEntry : String := "config entry without a name"

/-- The entries of a layer's text, names as they are written. -/
def layerEntries? (raw : String) : Option (List ConfigEntry) := do
  (← Yaml.Document.ofText? raw).read? fun root => do (← root.items).mapM ConfigEntry.ofNode

/-- The layer of a text. Names are trimmed; a layer that cannot be read, or with a blank name, fails
as a whole, and blank text is a layer without entries. -/
def readLayer (layer raw : String) : Except Error (List ConfigEntry) :=
  if Text.trim raw = "" then .ok []
  else match layerEntries? raw with
    | none => .error (.invalidConfigLayer layer malformedLayer)
    | some entries =>
      let trimmed := entries.map fun e => { e with name := Text.trim e.name }
      if trimmed.any (·.name = "") then .error (.invalidConfigLayer layer namelessEntry)
      else .ok trimmed

/-! ### Merging -/

/-- The entries with one put in the place of the first of its name, or at the end. -/
def putEntry (entry : ConfigEntry) : List ConfigEntry → List ConfigEntry
  | [] => [entry]
  | e :: rest => if e.name = entry.name then entry :: rest else e :: putEntry entry rest

/-- The lower layer overlaid with the entries of the upper one. -/
def merge (lower upper : List ConfigEntry) : List ConfigEntry :=
  upper.foldl (fun entries e => putEntry e entries) lower

end NodeVolumes
