import NodeVolumes.Api.Request
import NodeVolumes.ObjectKey

/-! # An API server in memory

A small API server that keeps every object as JSON under its kind, namespace and name. Pods end as soon
as they are created; nothing else changes objects but the calls.

* `Server.respond` gives the response to a call and the server after it. -/

namespace NodeVolumes

namespace Kind

/-- The place of a kind in the order of names. -/
def rank : Kind → Nat
  | blockDevice => 0
  | blockDeviceClaim => 1
  | node => 2
  | persistentVolume => 3
  | persistentVolumeClaim => 4
  | pod => 5
  | storageClass => 6

theorem rank_injective {a b : Kind} (h : a.rank = b.rank) : a = b := by
  cases a <;> cases b <;> first | rfl | cases h

/-- Kinds are ordered by their names. -/
instance : Ord Kind := ⟨compareOn rank⟩

end Kind

namespace Api

/-- Where the server keeps an object; one outside of namespaces has an empty one. -/
structure Key where
  kind : Kind
  place : ObjectKey
  deriving DecidableEq, Repr

namespace Key

instance : Ord Key := ⟨compareLex (compareOn fun k => k.kind.rank) (compareOn place)⟩

instance : Std.TransOrd Key :=
  inferInstanceAs
    (Std.TransCmp (compareLex (compareOn fun k : Key => k.kind.rank) (compareOn place)))

instance : Std.LawfulEqOrd Key where
  compare_self := Std.ReflCmp.compare_self
  eq_of_compare {a b} h := by
    have h' : (compare a.kind.rank b.kind.rank).then (compare a.place b.place) = .eq := h
    rw [Ordering.then_eq_eq] at h'
    have h1 := Kind.rank_injective (Std.LawfulEqCmp.eq_of_compare h'.1)
    have h2 := Std.LawfulEqCmp.eq_of_compare h'.2
    cases a; cases b; simp_all

end Key

/-- The objects of a server, and the phases that new pods take by their names. -/
structure Server where
  objects : KeyMap Key Json := .empty
  podPhases : TextMap := .empty
  deriving Repr

namespace Server

/-- Where an object of a kind, namespace and name is kept. -/
def key (kind : Kind) (ns : Option String) (name : String) : Key := ⟨kind, ⟨ns.getD "", name⟩⟩

/-! ### Preparing and looking -/

/-- Puts an object where its metadata says. -/
def put (s : Server) (kind : Kind) (object : Json) : Server :=
  let m := Metadata.ofObject object
  let labelled := (object.setText ["apiVersion"] kind.apiVersion).setText ["kind"] kind.name
  { s with objects := s.objects.insert (key kind m.ns m.nameD) labelled }

/-- Removes an object. -/
def remove (s : Server) (kind : Kind) (ns : Option String) (name : String) : Server :=
  { s with objects := s.objects.erase (key kind ns name) }

/-- Patches an object, if it exists. -/
def change (s : Server) (kind : Kind) (ns : Option String) (name : String) (patch : Json) : Server :=
  { s with objects := s.objects.modify (key kind ns name) fun j => j.applyPatch patch }

/-- The objects of some kinds, in the order of their keys. -/
def objectsOf (s : Server) (kinds : List Kind) : List Json :=
  (s.objects.filter fun e => kinds.contains e.1.kind).values

/-! ### Answering -/

/-- The failure for a missing object. -/
def missing (kind : Kind) (name : String) : ApiFailure :=
  ⟨404, kind.name ++ " " ++ name ++ " not found", "NotFound"⟩

/-- The failure for an existing object. -/
def existing (kind : Kind) (name : String) : ApiFailure :=
  ⟨409, kind.name ++ " " ++ name ++ " already exists", "AlreadyExists"⟩

/-- Tells whether labels meet one requirement of a selector. -/
def meets (labels : TextMap) (requirement : String) : Bool :=
  match requirement.toList.span (· ≠ '=') with
  | (key, _ :: v) => labels.get? (String.ofList key) = some (String.ofList v)
  | (_, []) => false

/-- Tells whether labels meet every requirement of a selector, of which there may be none. -/
def matchesSelector (labels : TextMap) (selector : String) : Bool :=
  selector = "" ||
    (selector.toList.splitOn ',').all fun requirement => meets labels (String.ofList requirement)

/-- The labels of an object. -/
def labelsOf (object : Json) : TextMap := (Metadata.ofObject object).labels.getD .empty

/-- The objects that a list call finds. -/
def select (s : Server) (kind : Kind) (ns selector : Option String) : List Json :=
  (s.objects.filter fun e =>
    e.1.kind = kind && ns.all (e.1.place.ns = ·) &&
      selector.all (matchesSelector (labelsOf e.2))).values

/-- The phase that a new pod takes: by its name, else the one for all, else that of success. -/
def phaseOf (s : Server) (pod : String) : String :=
  ((s.podPhases.get? pod).or (s.podPhases.get? "*")).getD "Succeeded"

/-- A new object as it is kept. -/
def stored (s : Server) (kind : Kind) (ns : Option String) (name : String) (body : Json) : Json :=
  let placed := match ns with
    | some ns => body.setText ["metadata", "namespace"] ns
    | none => body
  if kind = .pod then
    .object (Json.setMember "status" (.object [("phase", .string (s.phaseOf name))]) placed.members)
  else placed

/-- The response to a call, and the server after it. The address names the object, but a new one says
itself who it is. -/
def respond : (c : Call) → Server → Except ApiFailure c.Body × Server
  | .list kind ns selector, s => (.ok (s.select kind ns selector), s)
  | .get kind ns name, s =>
    match s.objects.get? (key kind ns (addressed name)) with
    | some j => (.ok j, s)
    | none => (.error (missing kind (addressed name)), s)
  | .create kind ns object, s =>
    let name := (kind.metadataOf object).nameD
    if s.objects.contains (key kind ns name) then (.error (existing kind name), s)
    else
      let body := s.stored kind ns name (kind.write object)
      (.ok body, { s with objects := s.objects.insert (key kind ns name) body })
  | .replace kind ns object, s =>
    let name := addressed (kind.metadataOf object).nameD
    if s.objects.contains (key kind ns name) then
      let body := kind.write object
      (.ok body, { s with objects := s.objects.insert (key kind ns name) body })
    else (.error (missing kind name), s)
  | .delete kind ns name, s =>
    let name := addressed name
    if s.objects.contains (key kind ns name) then (.ok (), s.remove kind ns name)
    else (.error (missing kind name), s)
  | .patch kind ns name patch, s =>
    let name := addressed name
    match s.objects.get? (key kind ns name) with
    | some j => (.ok (j.applyPatch patch), s.change kind ns name patch)
    | none => (.error (missing kind name), s)

end Server
end Api
end NodeVolumes
