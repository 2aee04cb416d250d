import NodeVolumes.Yaml.Scalar

/-! # Nodes as fields

Readers for nodes of which the reader knows what they have to be. A node of another kind is refused. A
reader follows aliases, but not without end: a hundred times for each part of the document.

* `Document.read?` reads a document from its root.
* `Node.text` takes a scalar as it is written, `Node.value` what it stands for.
* `Node.items` and `Node.fields` take the parts of a collection.
* `Node.optional` reads a node that may say that there is nothing. -/

namespace NodeVolumes.Yaml

/-- A computation on the nodes of a document that may follow a limited number of aliases. -/
abbrev Reading (α : Type) : Type := ReaderT Document (StateT Nat Option) α

/-- The number of aliases that a reader of a document may follow. -/
def Document.patience (d : Document) : Nat := 100 * d.root.parts

/-- Reads a document from its root. -/
def Document.read? {α : Type} (d : Document) (f : Node → Reading α) : Option α :=
  (((f d.root).run d).run d.patience).map (·.1)

namespace Node

/-- Takes one of the aliases that may be followed. -/
def spend : Reading Unit := do
  match ← get with
  | 0 => failure
  | n + 1 => set n

/-- The node itself, or the one that it is an alias for. -/
def followed : Node → Reading Node
  | reference number => do
    spend
    ((← read).target? number : Option Node)
  | node => return node

/-- Tells the empty plain scalars, which stand for an empty collection too. -/
def isAbsent : Node → Bool
  | scalar text .plain _ => text == ""
  | _ => false

/-- The text of a scalar as it is written, whatever its tag. -/
def text (n : Node) : Reading String := do
  match ← n.followed with
  | scalar text _ _ => return text
  | _ => failure

/-- What a scalar stands for, as text. -/
def value (n : Node) : Reading String := do
  match ← n.followed with
  | scalar text style tag => ((Value.ofScalar? text style tag).bind Value.render? : Option String)
  | _ => failure

/-- The items of a sequence. -/
def items (n : Node) : Reading (List Node) := do
  match ← n.followed with
  | sequence items _ => return items
  | n => if n.isAbsent then return [] else failure

/-- The pairs of a mapping whose keys are scalars, with the keys as they are written. -/
def fields (n : Node) : Reading (List (String × Node)) := do
  match ← n.followed with
  | mapping pairs _ => pairs.mapM fun (key, n) => return (← key.text, n)
  | n => if n.isAbsent then return [] else failure

/-- Tells whether a node is a spelling of nothing. A null tag forces such a spelling. -/
def isNothing : Node → Reading Bool
  | scalar text .plain none => return text == "" || Value.isNull text
  | scalar text .plain (some tag) =>
    if tag == Tag.core "null" then if Value.isNull text then return true else failure
    else return false
  | _ => return false

/-- Reads a node that may be a spelling of nothing. -/
def optional {α : Type} (read : Node → Reading α) (n : Node) : Reading (Option α) := do
  let n ← n.followed
  if ← n.isNothing then return none else return some (← read n)

/-- Reads the field with a name, if there is one. -/
def optionalField {α : Type} (fields : List (String × Node)) (name : String)
    (read : Node → Reading α) : Reading (Option α) := do
  match fields.lookup name with
  | none => return none
  | some n => n.optional read

end Node
end NodeVolumes.Yaml
