import NodeVolumes.Proofs.Cluster.Run

/-! # Device claims in a cluster in memory

What a claim asks for is settled when it is created. Reads may bind it to a device and writes may drop a
finalizer of it, which changes nothing about its wish, as long as only what has been read is written back.

* `SameWish`: two claims ask for the same.
* `ClaimStep`: what one event does to the claim under one key.
* `WritesBack`: events that only replace a claim by what has just been read of it.
* `Run.claim_origin`: a claim asks for what it asked for when it was created. -/

namespace NodeVolumes

namespace BlockDeviceClaim

/-- Two claims have one name and ask for the same, whatever devices they are bound to. -/
def SameWish (c c' : BlockDeviceClaim) : Prop :=
  c'.metadata.nameD = c.metadata.nameD ∧ c'.spec = { c.spec with deviceName := c'.spec.deviceName }

namespace SameWish

theorem refl (c : BlockDeviceClaim) : c.SameWish c := ⟨rfl, rfl⟩

theorem trans {a b c : BlockDeviceClaim} (h : a.SameWish b) (h' : b.SameWish c) : a.SameWish c := by
  obtain ⟨hname, hspec⟩ := h
  obtain ⟨hname', hspec'⟩ := h'
  refine ⟨hname'.trans hname, ?_⟩
  rw [hspec', hspec]

end SameWish

theorem sameWish_removeFinalizer (c : BlockDeviceClaim) (finalizer : String) :
    c.SameWish (c.removeFinalizer finalizer) := ⟨rfl, rfl⟩

end BlockDeviceClaim

namespace Cluster.Memory

open BlockDeviceClaim (SameWish)

variable {faults : Call → Error → Prop} {m m' m'' : Memory} {t u : List Event}

theorem sameWish_bound (binding : Option Binding) (reads : Nat) (claim : BlockDeviceClaim) :
    claim.SameWish (bound binding reads claim) := by
  unfold bound
  split
  · exact .refl claim
  · split
    · exact ⟨rfl, rfl⟩
    · exact .refl claim

theorem metadata_bound (binding : Option Binding) (reads : Nat) (claim : BlockDeviceClaim) :
    (bound binding reads claim).metadata = claim.metadata := by
  unfold bound
  split
  · rfl
  · split <;> rfl

/-! ### Steps of one claim -/

/-- The namespace in which a call replaces a claim, if it does. -/
def replacesIn? : Call → Option String
  | .replaceClaim ns _ => some ns
  | _ => none

theorem replacesIn?_of_isOnPod {c : Call} (h : c.isOnPod = true) : replacesIn? c = none := by
  cases c with
  | replaceClaim ns claim => cases h
  | _ => rfl

/-- An event that creates or deletes the claim under a key. -/
def TouchesClaim : ObjectKey → Event → Prop := Succeeds Call.createsOrDeletes Call.claimKey?

/-- An event that replaces the claim under a key. -/
def RewritesClaim : ObjectKey → Event → Prop := Succeeds (fun c => (replacesIn? c).isSome) Call.claimKey?

theorem rewritesClaim_iff {key : ObjectKey} {e : Event} : RewritesClaim key e ↔
    ∃ written stored, e = .called (.replaceClaim key.ns written) (.ok stored) ∧
      written.metadata.nameD = key.name := by
  constructor
  · intro h
    obtain ⟨c, stored, rfl, hkind, hkey⟩ := h.exists_eq
    cases c with
    | replaceClaim ns written =>
      cases hkey
      exact ⟨written, stored, rfl, rfl⟩
    | _ => cases hkind
  · rintro ⟨written, stored, rfl, hname⟩
    exact ⟨rfl, congrArg (fun name => some (ObjectKey.mk key.ns name)) hname⟩

/-- What an event does to the claim under a key. -/
inductive ClaimStep (key : ObjectKey) :
    Option BlockDeviceClaim → Event → Option BlockDeviceClaim → Prop
  | kept {claim : Option BlockDeviceClaim} {e : Event} : ¬TouchesClaim key e →
      ¬RewritesClaim key e → ClaimStep key claim e claim
  | created {made stored : BlockDeviceClaim} : made.metadata.nameD = key.name →
      made.SameWish stored → stored.metadata.finalizers = made.metadata.finalizers →
      ClaimStep key none (.called (.createClaim key.ns made) (.ok stored)) (some stored)
  | read {old new : BlockDeviceClaim} : old.SameWish new → new.metadata = old.metadata →
      ClaimStep key (some old) (.called (.getClaim key.ns key.name) (.ok new)) (some new)
  | replaced {old new : BlockDeviceClaim} : new.metadata.nameD = key.name →
      ClaimStep key (some old) (.called (.replaceClaim key.ns new) (.ok new)) (some new)
  | deleted {claim : Option BlockDeviceClaim} :
      ClaimStep key claim (.called (.deleteClaim key.ns key.name) (.ok ())) none

theorem ClaimStep.nameD_eq {key : ObjectKey} {before after : Option BlockDeviceClaim} {e : Event}
    (h : ClaimStep key before e after)
    (hbefore : ∀ old, before = some old → old.metadata.nameD = key.name) :
    ∀ new, after = some new → new.metadata.nameD = key.name := by
  intro new hnew
  cases h with
  | kept _ _ => exact hbefore new hnew
  | created hname hwish _ =>
    cases hnew
    exact hwish.1.trans hname
  | read hwish _ =>
    cases hnew
    exact hwish.1.trans (hbefore _ rfl)
  | replaced hname =>
    cases hnew
    exact hname
  | deleted => cases hnew

/-- Where a claim is from after an event that does not replace it: it was there and asked for the same, or
it is created. -/
theorem ClaimStep.origin {key : ObjectKey} {before : Option BlockDeviceClaim} {e : Event}
    {new : BlockDeviceClaim} (h : ClaimStep key before e (some new))
    (he : e.call?.bind replacesIn? ≠ some key.ns) :
    (∃ old, before = some old ∧ old.SameWish new ∧ ¬TouchesClaim key e) ∨
      ∃ made, e = .called (.createClaim key.ns made) (.ok new) ∧ made.SameWish new := by
  cases h with
  | kept htouch _ => exact .inl ⟨new, rfl, .refl new, htouch⟩
  | created _ hwish _ => exact .inr ⟨_, rfl, hwish⟩
  | read hwish _ => exact .inl ⟨_, rfl, hwish, not_succeeds_of_kind rfl⟩
  | replaced _ => exact absurd rfl he

theorem claimStep_getClaim (m : Memory) (key : ObjectKey) (ns name : String) :
    ClaimStep key (m.claims.get? key) (.called (.getClaim ns name) (m.getClaim ns name).1)
      ((m.getClaim ns name).2.claims.get? key) := by
  unfold getClaim
  dsimp only
  split
  case h_1 => exact .kept not_succeeds_error not_succeeds_error
  case h_2 claim hclaim =>
    dsimp only
    rw [KeyMap.get?_insert]
    by_cases hkey : (⟨ns, name⟩ : ObjectKey) = key
    · rw [if_pos hkey]
      subst hkey
      rw [hclaim]
      exact .read (sameWish_bound _ _ claim) (metadata_bound _ _ claim)
    · rw [if_neg hkey]
      exact .kept (not_succeeds_of_kind rfl) (not_succeeds_of_kind rfl)

theorem claimStep_createClaim (m : Memory) (key : ObjectKey) (ns : String) (made : BlockDeviceClaim) :
    ClaimStep key (m.claims.get? key) (.called (.createClaim ns made) (m.createClaim ns made).1)
      ((m.createClaim ns made).2.claims.get? key) := by
  unfold createClaim
  dsimp only
  split
  case isTrue => exact .kept not_succeeds_error not_succeeds_error
  case isFalse habsent =>
    dsimp only
    rw [KeyMap.get?_insert]
    by_cases hkey : (⟨ns, made.metadata.nameD⟩ : ObjectKey) = key
    · rw [if_pos hkey]
      subst hkey
      rw [show m.claims.get? _ = none by simpa [KeyMap.contains] using habsent]
      exact .created rfl ⟨rfl, rfl⟩ rfl
    · rw [if_neg hkey]
      exact .kept (not_succeeds_of_key (mt Option.some.inj hkey)) (not_succeeds_of_kind rfl)

theorem claimStep_replaceClaim (m : Memory) (key : ObjectKey) (ns : String)
    (claim : BlockDeviceClaim) :
    ClaimStep key (m.claims.get? key) (.called (.replaceClaim ns claim) (m.replaceClaim ns claim).1)
      ((m.replaceClaim ns claim).2.claims.get? key) := by
  unfold replaceClaim
  dsimp only
  split
  case isTrue hpresent =>
    dsimp only
    rw [KeyMap.get?_insert]
    by_cases hkey : (⟨ns, claim.metadata.nameD⟩ : ObjectKey) = key
    · rw [if_pos hkey]
      subst hkey
      obtain ⟨old, hold⟩ := Option.isSome_iff_exists.1 hpresent
      rw [hold]
      exact .replaced rfl
    · rw [if_neg hkey]
      exact .kept (not_succeeds_of_kind rfl) (not_succeeds_of_key (mt Option.some.inj hkey))
  case isFalse => exact .kept not_succeeds_error not_succeeds_error

theorem claimStep_deleteClaim (m : Memory) (key : ObjectKey) (ns name : String) :
    ClaimStep key (m.claims.get? key) (.called (.deleteClaim ns name) (m.deleteClaim ns name).1)
      ((m.deleteClaim ns name).2.claims.get? key) := by
  unfold deleteClaim
  split
  case isTrue =>
    dsimp only
    rw [KeyMap.get?_erase]
    by_cases hkey : (⟨ns, name⟩ : ObjectKey) = key
    · rw [if_pos hkey]
      subst hkey
      exact .deleted
    · rw [if_neg hkey]
      exact .kept (not_succeeds_of_key (mt Option.some.inj hkey)) (not_succeeds_of_kind rfl)
  case isFalse => exact .kept not_succeeds_error not_succeeds_error

theorem claimStep_of_answers (key : ObjectKey) {c : Call} {r : Reply c} (h : m.Answers faults c r m') :
    ClaimStep key (m.claims.get? key) (.called c r) (m'.claims.get? key) := by
  cases h with
  | failed _ => exact .kept not_succeeds_error not_succeeds_error
  | given =>
    by_cases hclaim : c.isOnClaim = true
    · cases c with
      | getClaim ns name => exact claimStep_getClaim m key ns name
      | createClaim ns made => exact claimStep_createClaim m key ns made
      | replaceClaim ns claim => exact claimStep_replaceClaim m key ns claim
      | deleteClaim ns name => exact claimStep_deleteClaim m key ns name
      | _ => cases hclaim
    · rw [Bool.not_eq_true] at hclaim
      rw [(frame_answer c m).claims hclaim]
      have hkey : c.claimKey? ≠ some key := Call.claimKey?_ne_of_isOnClaim hclaim
      exact .kept (not_succeeds_of_key hkey) (not_succeeds_of_key hkey)

theorem Run.claims_of_calls (h : Run faults m t m')
    (ht : ∀ c ∈ Program.Event.calls t, c.isOnClaim = false) : m'.claims = m.claims := by
  induction h with
  | done hdrift => exact hdrift.claims
  | @called m m₁ m₂ m₃ c r t hdrift hanswer _ ih =>
    rw [Program.Event.calls_called_cons, List.forall_mem_cons] at ht
    rw [ih ht.2, ← hdrift.claims]
    exact hanswer.frame.claims ht.1
  | silent _ _ ih => exact ih (Program.Event.forall_mem_calls_cons.1 ht).2

theorem ClaimStep.eq_of_ne {key : ObjectKey} {before after : Option BlockDeviceClaim} {c : Call}
    {r : Reply c} (h : ClaimStep key before (.called c r) after) (hc : c.claimKey? ≠ some key) :
    after = before := by
  cases h with
  | kept _ _ => rfl
  | created hname _ _ => exact absurd (congrArg (fun name => some (ObjectKey.mk key.ns name)) hname) hc
  | read _ _ => exact absurd rfl hc
  | replaced hname => exact absurd (congrArg (fun name => some (ObjectKey.mk key.ns name)) hname) hc
  | deleted => exact absurd rfl hc

theorem Run.get?_claims_of_ne {key : ObjectKey} (h : Run faults m t m')
    (ht : ∀ c ∈ Program.Event.calls t, c.claimKey? ≠ some key) : m'.claims.get? key = m.claims.get? key := by
  induction h with
  | done hdrift => rw [hdrift.claims]
  | @called m m₁ m₂ m₃ c r t hdrift hanswer _ ih =>
    rw [Program.Event.calls_called_cons, List.forall_mem_cons] at ht
    rw [ih ht.2, ← hdrift.claims]
    exact (claimStep_of_answers key hanswer).eq_of_ne ht.1
  | @silent m m' e t he _ ih =>
    exact ih (Program.Event.forall_mem_calls_cons.1 ht).2

theorem Answers.claims_of_getClaim {ns name : String} {claim : BlockDeviceClaim}
    (h : m.Answers faults (.getClaim ns name) (.ok claim) m') :
    ∃ old, m.claims.get? ⟨ns, name⟩ = some old ∧ old.SameWish claim ∧
      m'.claims.get? ⟨ns, name⟩ = some claim := by
  generalize hr : (Except.ok claim : Reply (.getClaim ns name)) = r at h
  cases h with
  | failed _ => cases hr
  | given =>
    unfold answer getClaim at hr ⊢
    cases hold : m.claims.get? ⟨ns, name⟩ with
    | none =>
      simp only [hold] at hr
      cases hr
    | some old =>
      simp only [hold] at hr ⊢
      cases hr
      exact ⟨old, rfl, sameWish_bound _ _ old, KeyMap.get?_insert_self ..⟩

theorem Answers.claims_of_getClaim_error {ns name : String} {e : Error}
    (h : m.Answers faults (.getClaim ns name) (.error e) m') (he : ¬faults (.getClaim ns name) e) :
    m.claims.get? ⟨ns, name⟩ = none ∧ m'.claims.get? ⟨ns, name⟩ = none := by
  generalize hr : (Except.error e : Reply (.getClaim ns name)) = r at h
  cases h with
  | failed hfault =>
    cases hr
    exact absurd hfault he
  | given =>
    unfold answer getClaim at hr ⊢
    cases hclaim : m.claims.get? ⟨ns, name⟩ with
    | none => simp only [hclaim, and_self]
    | some claim =>
      simp only [hclaim] at hr
      cases hr

theorem Answers.claims_of_deleteClaim {ns name : String} {r : Reply (.deleteClaim ns name)}
    (h : m.Answers faults (.deleteClaim ns name) r m') (hfaults : ∀ e, ¬faults (.deleteClaim ns name) e) :
    m'.claims.get? ⟨ns, name⟩ = none := by
  cases h with
  | failed hfault => exact absurd hfault (hfaults _)
  | given =>
    unfold answer deleteClaim
    dsimp only
    split
    case isTrue =>
      dsimp only
      rw [KeyMap.get?_erase, if_pos rfl]
    case isFalse habsent => simpa [KeyMap.contains] using habsent

theorem Answers.claims_of_replaceClaim {ns : String} {claim : BlockDeviceClaim}
    {r : Reply (.replaceClaim ns claim)} (h : m.Answers faults (.replaceClaim ns claim) r m') :
    m'.claims.get? ⟨ns, claim.metadata.nameD⟩ = m.claims.get? ⟨ns, claim.metadata.nameD⟩ ∨
      m'.claims.get? ⟨ns, claim.metadata.nameD⟩ = some claim := by
  cases h with
  | failed _ => exact .inl rfl
  | given =>
    unfold answer replaceClaim
    dsimp only
    split
    · exact .inr (KeyMap.get?_insert_self ..)
    · exact .inl rfl

/-! ### Writing back -/

/-- Every replacement of a claim under a name follows a read of it, and writes what has been read without
some finalizer. -/
inductive WritesBack (ns name : String) : List Event → Prop
  | nil : WritesBack ns name []
  | other {e : Event} {t : List Event} : e.call?.bind replacesIn? ≠ some ns →
      WritesBack ns name t → WritesBack ns name (e :: t)
  | written {current : BlockDeviceClaim} {finalizer : String}
      {r : Reply (.replaceClaim ns (current.removeFinalizer finalizer))} {t : List Event} :
      WritesBack ns name t → WritesBack ns name (.called (.getClaim ns name) (.ok current) ::
        .called (.replaceClaim ns (current.removeFinalizer finalizer)) r :: t)

variable {ns name : String}

theorem composable_writesBack : Attempt.Composable (WritesBack ns name) where
  nil := .nil
  append := by
    intro t u ht hu
    induction ht with
    | nil => exact hu
    | other he _ ih => exact .other he ih
    | written _ ih => exact .written ih
  silent := by
    intro e he
    refine .other ?_ .nil
    rw [he]
    exact nofun

/-- A claim that is there at the end asks for what it asked for at the start, if nothing has created or
deleted it meanwhile, and else for what it was created for last. -/
theorem Run.claim_origin (htrace : WritesBack ns name t) (h : Run faults m t m')
    (hname : ∀ old, m.claims.get? ⟨ns, name⟩ = some old → old.metadata.nameD = name)
    {claim : BlockDeviceClaim} (hclaim : m'.claims.get? ⟨ns, name⟩ = some claim) :
    (∃ old, m.claims.get? ⟨ns, name⟩ = some old ∧ old.SameWish claim ∧
      ∀ e ∈ t, ¬TouchesClaim ⟨ns, name⟩ e) ∨
    ∃ u made stored v, t = u ++ .called (.createClaim ns made) (.ok stored) :: v ∧
      made.SameWish claim ∧ ∀ e ∈ v, ¬TouchesClaim ⟨ns, name⟩ e := by
  induction htrace generalizing m with
  | nil =>
    cases h with
    | done hdrift =>
      rw [hdrift.claims] at hclaim
      exact .inl ⟨claim, hclaim, .refl claim, by simp⟩
  | @other e t he _ ih =>
    cases h with
    | silent hsilent hrest =>
      rcases ih hrest hname with ⟨old, hold, hwish, huntouched⟩ | ⟨u, made, stored, v, rfl, hmade⟩
      · exact .inl ⟨old, hold, hwish,
          List.forall_mem_cons.2 ⟨not_succeeds_of_call?_eq_none hsilent, huntouched⟩⟩
      · exact .inr ⟨_ :: u, made, stored, v, rfl, hmade⟩
    | @called _ m₁ m₂ _ c r _ hdrift hanswer hrest =>
      rw [← hdrift.claims] at hname ⊢
      have hstep := claimStep_of_answers ⟨ns, name⟩ hanswer
      rcases ih hrest (hstep.nameD_eq hname) with
        ⟨old, hold, hwish, huntouched⟩ | ⟨u, made, stored, v, rfl, hmade⟩
      · rw [hold] at hstep
        rcases hstep.origin he with ⟨older, holder, hwish', htouch⟩ | ⟨made, hmade, hwish'⟩
        · exact .inl ⟨older, holder, hwish'.trans hwish,
            List.forall_mem_cons.2 ⟨htouch, huntouched⟩⟩
        · exact .inr ⟨[], made, old, t, by rw [hmade]; rfl, hwish'.trans hwish, huntouched⟩
      · exact .inr ⟨_ :: u, made, stored, v, rfl, hmade⟩
  | @written current finalizer r t _ ih =>
    cases h with
    | silent he _ => cases he
    | @called _ m₁ m₂ _ _ _ _ hdrift hanswer hrest =>
      cases hrest with
      | silent he _ => cases he
      | @called _ m₃ m₄ _ _ _ _ hdrift' hanswer' hrest' =>
        rw [← hdrift.claims] at hname ⊢
        obtain ⟨old, hold, hread, hcurrent⟩ := hanswer.claims_of_getClaim
        have hnamed : current.metadata.nameD = name := hread.1.trans (hname old hold)
        -- the claim that is written has the name under which it has been read
        have hwritten : ∀ new, m₄.claims.get? ⟨ns, name⟩ = some new → old.SameWish new := by
          intro new hnew
          have hkey : (current.removeFinalizer finalizer).metadata.nameD = name := hnamed
          have hreplaced := hanswer'.claims_of_replaceClaim
          rw [hkey, hdrift'.claims, hcurrent, hnew] at hreplaced
          rcases hreplaced with h | h
          · cases h
            exact hread
          · cases h
            exact hread.trans (current.sameWish_removeFinalizer finalizer)
        have hname' : ∀ new, m₄.claims.get? ⟨ns, name⟩ = some new → new.metadata.nameD = name :=
          fun new hnew => (hwritten new hnew).1.trans (hname old hold)
        rcases ih hrest' hname' with ⟨new, hnew, hwish, huntouched⟩ | ⟨u, made, stored, v, rfl, hmade⟩
        · refine .inl ⟨old, hold, (hwritten new hnew).trans hwish, ?_⟩
          exact List.forall_mem_cons.2 ⟨not_succeeds_of_kind rfl,
            List.forall_mem_cons.2 ⟨not_succeeds_of_kind rfl, huntouched⟩⟩
        · exact .inr ⟨_ :: _ :: u, made, stored, v, rfl, hmade⟩

end Cluster.Memory
end NodeVolumes
