import NodeVolumes.Cluster.Call
import NodeVolumes.Provisioner

/-! # Metrics

Four families of counters tell how often volumes were provisioned and deleted, and how often that
failed, by storage kind. A row of a family exists from the first time it is counted or looked at.

* `Metrics.observe` counts what the engine tells.
* `Metrics.gather` lists the families that have rows. -/

namespace NodeVolumes

/-- The families of counters. -/
inductive Family where
  | deleteFailures
  | deletes
  | provisionFailures
  | provisions
  deriving DecidableEq, Repr

namespace Family

/-- The families, in the order of their names. -/
def all : List Family := [deleteFailures, deletes, provisionFailures, provisions]

/-- The name of a family. -/
def name : Family → String
  | deleteFailures => "localpv_delete_failures_total"
  | deletes => "localpv_delete_total"
  | provisionFailures => "localpv_provision_failures_total"
  | provisions => "localpv_provision_total"

/-- What a family counts. -/
def help : Family → String
  | deleteFailures => "Failed volume delete calls"
  | deletes => "Total volume delete calls"
  | provisionFailures => "Failed volume provision calls"
  | provisions => "Total volume provision calls"

end Family

/-- The label that every row has. -/
def storageTypeLabel : String := "storage_type"

/-- The counters: for each family a count by label value. -/
structure Metrics where
  deleteFailures : KeyMap String Nat := .empty
  deletes : KeyMap String Nat := .empty
  provisionFailures : KeyMap String Nat := .empty
  provisions : KeyMap String Nat := .empty
  deriving DecidableEq, Repr

namespace Metrics

/-- The rows of a family. -/
def rows (m : Metrics) : Family → KeyMap String Nat
  | .deleteFailures => m.deleteFailures
  | .deletes => m.deletes
  | .provisionFailures => m.provisionFailures
  | .provisions => m.provisions

/-- The metrics with the rows of one family replaced. -/
def setRows (m : Metrics) (f : Family) (rows : KeyMap String Nat) : Metrics :=
  match f with
  | .deleteFailures => { m with deleteFailures := rows }
  | .deletes => { m with deletes := rows }
  | .provisionFailures => { m with provisionFailures := rows }
  | .provisions => { m with provisions := rows }

/-- The count of a row, zero while the row does not exist. -/
def count (m : Metrics) (f : Family) (label : String) : Nat := ((m.rows f).get? label).getD 0

/-- Adds to the count of a row, which exists afterwards. -/
def add (m : Metrics) (f : Family) (label : String) (n : Nat) : Metrics :=
  m.setRows f ((m.rows f).insert label (m.count f label + n))

@[simp] theorem rows_setRows (m : Metrics) (f g : Family) (rows : KeyMap String Nat) :
    (m.setRows f rows).rows g = if f = g then rows else m.rows g := by
  cases f <;> cases g <;> rfl

/-- Counts a call in one family, and a failed one in the family of failures too. -/
def countCall (m : Metrics) (total failures : Family) (label : String) (ok : Bool) : Metrics :=
  let counted := m.add total label 1
  if ok then counted else counted.add failures label 1

/-- Counts a provision call. -/
def observeProvision (m : Metrics) (kind : Option StorageKind) (ok : Bool) : Metrics :=
  m.countCall .provisions .provisionFailures (kindLabel kind) ok

/-- Counts a delete call. -/
def observeDelete (m : Metrics) (kind : StorageKind) (ok : Bool) : Metrics :=
  m.countCall .deletes .deleteFailures kind.name ok

/-- Counts what the engine tells. -/
def observe (m : Metrics) : Note → Metrics
  | .log .. => m
  | .provisioned kind ok => m.observeProvision kind ok
  | .deleted kind ok => m.observeDelete kind ok

/-- Looks at a label in every family, which makes its rows exist. -/
def look (m : Metrics) (label : String) : Metrics :=
  Family.all.foldl (fun m f => m.add f label 0) m

/-- The families that have rows, in the order of their names, with their rows. -/
def gather (m : Metrics) : List (Family × List (String × Nat)) :=
  (Family.all.map fun f => (f, (m.rows f).toList)).filter (·.2 ≠ [])

end Metrics

/-! ### Registries -/

/-- The names of the families that have been registered for output. -/
structure Registry where
  names : List String := []
  deriving DecidableEq, Repr

/-- The registry with all families added; a name can be taken once. -/
def Registry.register (r : Registry) : Option Registry :=
  if Family.all.any fun f => r.names.contains f.name then none
  else some ⟨r.names ++ Family.all.map (·.name)⟩

/-- The families cannot be registered twice. -/
theorem Registry.register_register {r s : Registry} (h : r.register = some s) :
    s.register = none := by
  unfold register at h
  split at h
  · simp at h
  · obtain rfl := Option.some.inj h
    simp [register, Family.all]

end NodeVolumes
