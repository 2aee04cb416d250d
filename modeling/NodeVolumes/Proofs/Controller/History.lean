import NodeVolumes.Proofs.Controller.Parked

/-! # Histories of parked claims

Claims are parked and freed one after the other, and the claims that are no longer listed are forgotten. What is parked
in the end can be told from the operations alone: a claim is parked when it failed for good as it is now, and nothing
has undone that since.

* `Parked.Operation` lists the operations, `Parked.after` is what they leave parked.
* `Parked.get?_apply_eq_some_iff`: what one operation leaves parked for a uid.
* `Parked.get?_foldl_apply_eq_some_iff`: the same for a row of operations.
* `Parked.holds_after_iff`: whether a claim is parked after all of them. -/

namespace NodeVolumes.Controller.Parked

/-- What is done to the parked claims. -/
inductive Operation where
  /-- A claim has failed with an error. -/
  | park (claim : PersistentVolumeClaim) (e : Error)
  | free (claim : PersistentVolumeClaim)
  | keepListed (claims : List PersistentVolumeClaim)
  deriving DecidableEq, Repr

/-- What is parked after one operation. -/
def apply (p : Parked) : Operation → Parked
  | .park claim e => p.park claim e
  | .free claim => p.free claim
  | .keepListed claims => p.keepListed claims

/-- What is parked after operations in their order, when nothing was before them. -/
def after (ops : List Operation) : Parked := ops.foldl apply {}

/-! ### What operations are about -/

namespace Operation

/-- A claim with a uid and a version has failed for good. -/
inductive Parks (uid version : String) : Operation → Prop
  | park {claim : PersistentVolumeClaim} {e : Error} (hasUid : claim.metadata.uid = some uid)
      (hasVersion : claim.metadata.resourceVersion = some version) (final : e.isRetryable = false) :
      Parks uid version (.park claim e)

/-- A claim with a uid is freed. -/
inductive Frees (uid : String) : Operation → Prop
  | free {claim : PersistentVolumeClaim} (hasUid : claim.metadata.uid = some uid) : Frees uid (.free claim)

/-- The claims are listed, and none of them has a uid. -/
inductive Drops (uid : String) : Operation → Prop
  | keepListed {claims : List PersistentVolumeClaim} (absent : ∀ claim ∈ claims, claim.metadata.uid ≠ some uid) :
      Drops uid (.keepListed claims)

/-- A version stays parked for a uid: the uid is neither freed nor dropped nor parked with another version. -/
def Keeps (uid version : String) (op : Operation) : Prop :=
  ¬op.Frees uid ∧ ¬op.Drops uid ∧ ∀ other, op.Parks uid other → other = version

end Operation

variable {claim : PersistentVolumeClaim} {claims : List PersistentVolumeClaim} {p : Parked} {e : Error}
  {op : Operation} {uid version : String}

/-! ### One operation -/

theorem parks_park_iff : (Operation.park claim e).Parks uid version ↔
    version? claim = some (uid, version) ∧ e.isRetryable = false := by
  rw [version?_eq_some_iff]
  constructor
  · rintro ⟨hasUid, hasVersion, final⟩
    exact ⟨⟨hasUid, hasVersion⟩, final⟩
  · rintro ⟨⟨hasUid, hasVersion⟩, final⟩
    exact ⟨hasUid, hasVersion, final⟩

theorem keeps_park_iff : (Operation.park claim e).Keeps uid version ↔
    ∀ other, (Operation.park claim e).Parks uid other → other = version :=
  ⟨fun h => h.2.2, fun h => ⟨nofun, nofun, h⟩⟩

theorem keeps_free_iff : (Operation.free claim).Keeps uid version ↔ claim.metadata.uid ≠ some uid :=
  ⟨fun h hasUid => h.1 ⟨hasUid⟩, fun h => ⟨fun ⟨hasUid⟩ => h hasUid, nofun, nofun⟩⟩

theorem keeps_keepListed_iff : (Operation.keepListed claims).Keeps uid version ↔
    ∃ claim ∈ claims, claim.metadata.uid = some uid := by
  constructor
  · intro h
    by_contra hnone
    exact h.2.1 ⟨fun claim hclaim hasUid => hnone ⟨claim, hclaim, hasUid⟩⟩
  · rintro ⟨claim, hclaim, hasUid⟩
    exact ⟨nofun, fun ⟨absent⟩ => absent claim hclaim hasUid, nofun⟩

theorem get?_park_eq_some_iff : (p.park claim e).versions.get? uid = some version ↔
    (Operation.park claim e).Parks uid version ∨
      (Operation.park claim e).Keeps uid version ∧ p.versions.get? uid = some version := by
  by_cases hparks : ∃ own, (Operation.park claim e).Parks uid own
  · obtain ⟨own, hown⟩ := hparks
    obtain ⟨hversion, final⟩ := parks_park_iff.1 hown
    rw [get?_park_self hversion final, Option.some_inj]
    constructor
    · rintro rfl
      exact .inl hown
    · rintro (h | ⟨hkeeps, -⟩)
      · have := (parks_park_iff.1 h).1
        rw [hversion] at this
        cases this
        rfl
      · exact hkeeps.2.2 own hown
  · have hnone (own : String) : ¬(Operation.park claim e).Parks uid own := fun h => hparks ⟨own, h⟩
    have hsame : (p.park claim e).versions.get? uid = p.versions.get? uid := by
      unfold park
      split
      · rfl
      case isFalse hfinal =>
        split
        case h_1 own version hversion =>
          have hne : own ≠ uid := by
            rintro rfl
            exact hnone version (parks_park_iff.2 ⟨hversion, by simpa using hfinal⟩)
          exact KeyMap.get?_insert_of_ne _ hne _
        case h_2 => rfl
    rw [hsame, keeps_park_iff]
    constructor
    · exact fun h => .inr ⟨fun own hown => absurd hown (hnone own), h⟩
    · rintro (h | ⟨-, h⟩)
      · exact absurd h (hnone version)
      · exact h

theorem get?_free_eq_some_iff : (p.free claim).versions.get? uid = some version ↔
    claim.metadata.uid ≠ some uid ∧ p.versions.get? uid = some version := by
  by_cases hasUid : claim.metadata.uid = some uid
  · unfold free
    rw [hasUid]
    dsimp only
    rw [KeyMap.get?_erase, if_pos rfl]
    simp
  · rw [get?_free_of_ne hasUid]
    simp [hasUid]

theorem get?_keepListed_eq_some_iff : (p.keepListed claims).versions.get? uid = some version ↔
    (∃ claim ∈ claims, claim.metadata.uid = some uid) ∧ p.versions.get? uid = some version := by
  unfold keepListed
  rw [KeyMap.get?_filter, Option.filter_eq_some_iff, and_comm]
  simp

/-- After one operation a version is parked for a uid if the operation has parked it, or has kept it. -/
theorem get?_apply_eq_some_iff : (p.apply op).versions.get? uid = some version ↔
    op.Parks uid version ∨ op.Keeps uid version ∧ p.versions.get? uid = some version := by
  cases op with
  | park claim e => exact get?_park_eq_some_iff
  | free claim =>
    have hparks : ¬(Operation.free claim).Parks uid version := nofun
    rw [or_iff_right hparks, keeps_free_iff]
    exact get?_free_eq_some_iff
  | keepListed claims =>
    have hparks : ¬(Operation.keepListed claims).Parks uid version := nofun
    rw [or_iff_right hparks, keeps_keepListed_iff]
    exact get?_keepListed_eq_some_iff

/-! ### Rows of operations -/

/-- After operations a version is parked for a uid if one of them has parked it and all later ones have kept it, or if
it was parked before and all have kept it. -/
theorem get?_foldl_apply_eq_some_iff {ops : List Operation} :
    (ops.foldl apply p).versions.get? uid = some version ↔
      (∃ earlier op later, ops = earlier ++ op :: later ∧ op.Parks uid version ∧
        ∀ op' ∈ later, op'.Keeps uid version) ∨
      (∀ op ∈ ops, op.Keeps uid version) ∧ p.versions.get? uid = some version := by
  induction ops generalizing p with
  | nil => simp
  | cons first rest ih =>
    rw [List.foldl_cons, ih, get?_apply_eq_some_iff]
    constructor
    · rintro (⟨earlier, op, later, rfl, hparks, hlater⟩ | ⟨hrest, hparks | ⟨hkeeps, hp⟩⟩)
      · exact .inl ⟨first :: earlier, op, later, rfl, hparks, hlater⟩
      · exact .inl ⟨[], first, rest, rfl, hparks, hrest⟩
      · exact .inr ⟨List.forall_mem_cons.2 ⟨hkeeps, hrest⟩, hp⟩
    · rintro (⟨earlier, op, later, hops, hparks, hlater⟩ | ⟨hall, hp⟩)
      · cases earlier with
        | nil =>
          cases hops
          exact .inr ⟨hlater, .inl hparks⟩
        | cons head earlier =>
          cases hops
          exact .inl ⟨earlier, op, later, rfl, hparks, hlater⟩
      · obtain ⟨hfirst, hrest⟩ := List.forall_mem_cons.1 hall
        exact .inr ⟨hrest, .inr ⟨hfirst, hp⟩⟩

/-- A claim is parked exactly when it has a uid and a version, a claim with both of them has failed for good, and since
then the uid has neither been freed, nor been missing from the listed claims, nor been parked with another version. -/
theorem holds_after_iff (ops : List Operation) (claim : PersistentVolumeClaim) :
    (after ops).holds claim = true ↔
      ∃ uid version, claim.metadata.uid = some uid ∧ claim.metadata.resourceVersion = some version ∧
        ∃ earlier op later, ops = earlier ++ op :: later ∧ op.Parks uid version ∧
          ∀ op' ∈ later, ¬op'.Frees uid ∧ ¬op'.Drops uid ∧ ∀ other, op'.Parks uid other → other = version := by
  have hnew (uid : String) : ({} : Parked).versions.get? uid = none := KeyMap.get?_empty uid
  cases hversion : version? claim with
  | none =>
    rw [holds_of_none hversion]
    constructor
    · nofun
    · rintro ⟨uid, version, hasUid, hasVersion, -⟩
      rw [version?_eq_some_iff.2 ⟨hasUid, hasVersion⟩] at hversion
      cases hversion
  | some own =>
    obtain ⟨uid, version⟩ := own
    obtain ⟨hasUid, hasVersion⟩ := version?_eq_some_iff.1 hversion
    rw [holds_of_get? hversion, decide_eq_true_iff]
    unfold after
    rw [get?_foldl_apply_eq_some_iff, hnew]
    constructor
    · rintro (h | ⟨-, h⟩)
      · exact ⟨uid, version, hasUid, hasVersion, h⟩
      · cases h
    · rintro ⟨uid', version', hasUid', hasVersion', h⟩
      cases hasUid.symm.trans hasUid'
      cases hasVersion.symm.trans hasVersion'
      exact .inl h

end NodeVolumes.Controller.Parked
