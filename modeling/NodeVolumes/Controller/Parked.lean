import NodeVolumes.Error
import NodeVolumes.Object.PersistentVolumeClaim

/-! # Parked claims

A claim that failed with an error that only a change to the claim can clear is parked: it is left alone
until its resource version changes.

* `Parked.holds` tells whether a claim is parked as it is.
* `Parked.park`, `Parked.free` and `Parked.keepListed` are the operations. -/

namespace NodeVolumes.Controller

/-- The parked claims: resource version by uid. -/
structure Parked where
  versions : TextMap := .empty
  deriving DecidableEq, Repr, Inhabited

namespace Parked

/-- The uid and resource version of a claim that has both. -/
def version? (claim : PersistentVolumeClaim) : Option (String × String) := do
  return (← claim.metadata.uid, ← claim.metadata.resourceVersion)

/-- Tells whether a claim is parked and unchanged since. -/
def holds (p : Parked) (claim : PersistentVolumeClaim) : Bool :=
  match version? claim with
  | some (uid, version) => p.versions.get? uid = some version
  | none => false

/-- Parks a claim, if the error can only clear by a change to it. -/
def park (p : Parked) (claim : PersistentVolumeClaim) (e : Error) : Parked :=
  if e.isRetryable then p
  else match version? claim with
    | some (uid, version) => ⟨p.versions.insert uid version⟩
    | none => p

/-- Forgets a claim. -/
def free (p : Parked) (claim : PersistentVolumeClaim) : Parked :=
  match claim.metadata.uid with
  | some uid => ⟨p.versions.erase uid⟩
  | none => p

/-- Forgets the claims that are not listed. -/
def keepListed (p : Parked) (claims : List PersistentVolumeClaim) : Parked :=
  ⟨p.versions.filter fun e => claims.any (·.metadata.uid = some e.1)⟩

end Parked
end NodeVolumes.Controller
