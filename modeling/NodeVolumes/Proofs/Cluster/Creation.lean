import NodeVolumes.Proofs.Cluster.Claims
import NodeVolumes.Proofs.Cluster.Play

/-! # Creations of claims

A claim that nobody deletes is created once if it is missing, and never if it is there: the creations that
succeed are the claims that come to be there.

* `ClaimStep.creations_add`, `Plays.creations_add`: the number of creations, at one event and in a whole play.
* `Plays.keepsClaim`: what is not rewritten either stays as it is, until the script binds it.
* `Plays.exists_creation`: the first creation that is asked for is the one that succeeds. -/

namespace NodeVolumes.Cluster.Memory

open Program.Event (calls)

variable {faults : Call → Error → Prop} {m m' : Memory} {key : ObjectKey} {t : List Event}

/-! ### Creations and claims -/

/-- Tells the events that create a claim. -/
def isCreation : Event → Bool
  | .called (.createClaim ..) (.ok _) => true
  | _ => false

/-- How many claims are created. -/
def creations (t : List Event) : Nat := t.countP isCreation

theorem creations_append (t u : List Event) : creations (t ++ u) = creations t + creations u :=
  List.countP_append

/-- The number of claims under a key. -/
def claimsAt (m : Memory) (key : ObjectKey) : Nat := (m.claims.contains key).toNat

theorem contains_of_claimsAt (h : 1 ≤ m.claimsAt key) : m.claims.contains key = true := by
  unfold claimsAt at h
  exact Bool.toNat_eq_one.1 (Nat.le_antisymm (Bool.toNat_le _) h)

/-! ### Creations of one claim -/

/-- Tells the events that create the claim under a key. -/
def createsClaim (key : ObjectKey) : Event → Bool
  | .called (.createClaim ns made) (.ok _) => decide ((⟨ns, made.metadata.nameD⟩ : ObjectKey) = key)
  | _ => false

/-- An event that asks for the creation of the claim under a key. -/
def AsksForClaim (key : ObjectKey) (e : Event) : Prop :=
  ∃ made, e.call? = some (.createClaim key.ns made) ∧ made.metadata.nameD = key.name

/-- An event that does not ask for the deletion of the claim under a key. -/
def SparesClaim (key : ObjectKey) (e : Event) : Prop := e.call? ≠ some (.deleteClaim key.ns key.name)

theorem createsClaim_eq_false {e : Event} (h : ¬TouchesClaim key e) : createsClaim key e = false := by
  unfold createsClaim
  split
  · exact decide_eq_false fun hkey => h ⟨rfl, congrArg some hkey⟩
  · rfl

theorem Happens.claimStep {e : Event} (key : ObjectKey) (h : Happens faults m e m') :
    ClaimStep key (m.claims.get? key) e (m'.claims.get? key) := by
  cases h with
  | called hanswer => exact claimStep_of_answers key hanswer
  | silent he =>
    exact .kept (not_succeeds_of_call?_eq_none he) (not_succeeds_of_call?_eq_none he)

/-- An event that spares a claim creates it exactly when it is missing before and there afterwards. -/
theorem ClaimStep.creations_add {before after : Option BlockDeviceClaim} {e : Event}
    (h : ClaimStep key before e after) (hspares : SparesClaim key e) :
    (createsClaim key e).toNat + before.isSome.toNat = after.isSome.toNat := by
  cases h with
  | kept htouch _ =>
    rw [createsClaim_eq_false htouch]
    exact Nat.zero_add _
  | created hname _ _ =>
    have hcreates : decide (ObjectKey.mk key.ns _ = key) = true :=
      decide_eq_true (congrArg (ObjectKey.mk key.ns) hname)
    exact congrArg Bool.toNat hcreates
  | read _ _ => rfl
  | replaced _ => rfl
  | deleted => exact absurd rfl hspares

theorem ClaimStep.eq_none {after : Option BlockDeviceClaim} {e : Event}
    (h : ClaimStep key none e after) (hasks : ¬AsksForClaim key e) : after = none := by
  cases h with
  | kept _ _ => rfl
  | created hname _ _ => exact absurd ⟨_, rfl, hname⟩ hasks
  | deleted => rfl

/-- A claim that nobody deletes is created when it is missing, and then no more. -/
theorem Plays.creations_add (h : Plays faults m t m') (hspares : ∀ e ∈ t, SparesClaim key e) :
    t.countP (createsClaim key) + m.claimsAt key = m'.claimsAt key := by
  induction h with
  | done => exact Nat.zero_add _
  | @next m m₁ m' e t he _ ih =>
    rw [List.forall_mem_cons] at hspares
    have hfirst : (createsClaim key e).toNat + m.claimsAt key = m₁.claimsAt key :=
      (he.claimStep key).creations_add hspares.1
    have hcount : (e :: t).countP (createsClaim key) =
        t.countP (createsClaim key) + (createsClaim key e).toNat := by
      rw [List.countP_cons]
      cases createsClaim key e <;> rfl
    rw [← ih hspares.2, ← hfirst, hcount, Nat.add_assoc]

theorem Plays.contains_of_spares (h : Plays faults m t m') (hspares : ∀ e ∈ t, SparesClaim key e)
    (hpresent : m.claims.contains key = true) : m'.claims.contains key = true := by
  refine contains_of_claimsAt ?_
  rw [← h.creations_add hspares]
  unfold claimsAt
  rw [hpresent]
  exact Nat.le_add_left ..

theorem Plays.contains_of_mem {e : Event} (h : Plays faults m t m') (hspares : ∀ e ∈ t, SparesClaim key e)
    (he : e ∈ t) (hthere : ∀ {n n' : Memory}, Happens faults n e n' → n'.claims.contains key = true) :
    m'.claims.contains key = true := by
  obtain ⟨u, v, rfl⟩ := List.append_of_mem he
  obtain ⟨m₁, -, hrest⟩ := h.of_append
  cases hrest with
  | next hhappens hlater =>
    refine hlater.contains_of_spares (fun d hd => hspares d ?_) (hthere hhappens)
    exact List.mem_append_right _ (List.mem_cons_of_mem _ hd)

/-! ### What is kept of a claim -/

/-- A claim is kept as it is, or without a device until then it is bound to the one that is scripted. -/
def KeepsClaim (m : Memory) (key : ObjectKey) (claim kept : BlockDeviceClaim) : Prop :=
  kept = claim ∨ claim.boundDevice? = none ∧
    ∃ b, m.bindings.get? key.name = some b ∧ kept = claim.bindTo b.device

theorem keepsClaim_bound (m : Memory) (key : ObjectKey) (reads : Nat) (claim : BlockDeviceClaim) :
    m.KeepsClaim key claim (bound (m.bindings.get? key.name) reads claim) := by
  unfold bound
  split
  case h_1 => exact .inl rfl
  case h_2 b hb =>
    split
    case isTrue hunbound => exact .inr ⟨hunbound.2, b, hb, rfl⟩
    case isFalse => exact .inl rfl

theorem KeepsClaim.of_sameSetup {claim kept : BlockDeviceClaim} (h : m'.KeepsClaim key claim kept)
    (hsetup : m.SameSetup m') : m.KeepsClaim key claim kept := by
  unfold KeepsClaim at h ⊢
  rw [← hsetup.bindings]
  exact h

/-- There is one scripted device, so binding twice is binding once. -/
theorem KeepsClaim.trans {a b c : BlockDeviceClaim} (h : m.KeepsClaim key a b)
    (h' : m.KeepsClaim key b c) : m.KeepsClaim key a c := by
  rcases h with rfl | ⟨hunbound, binding, hbinding, rfl⟩
  · exact h'
  rcases h' with rfl | ⟨-, binding', hbinding', rfl⟩
  · exact .inr ⟨hunbound, binding, hbinding, rfl⟩
  · obtain rfl : binding = binding' := Option.some.inj (hbinding.symm.trans hbinding')
    exact .inr ⟨hunbound, binding, hbinding, rfl⟩

theorem get?_claims_getClaim (m : Memory) (key : ObjectKey) :
    (m.getClaim key.ns key.name).2.claims.get? key =
      (m.claims.get? key).map (bound (m.bindings.get? key.name) (m.readsOf key.name + 1)) := by
  unfold getClaim
  cases hclaim : m.claims.get? key with
  | none => simp [hclaim]
  | some claim => simp [hclaim]

theorem Answers.keepsClaim_of_getClaim {claim : BlockDeviceClaim} {r : Reply (.getClaim key.ns key.name)}
    (h : m.Answers faults (.getClaim key.ns key.name) r m') (hclaim : m.claims.get? key = some claim) :
    ∃ kept, m'.claims.get? key = some kept ∧ m.KeepsClaim key claim kept := by
  cases h with
  | given =>
    have hread := get?_claims_getClaim m key
    rw [hclaim, Option.map_some] at hread
    exact ⟨_, hread, keepsClaim_bound m key _ claim⟩
  | failed _ => exact ⟨claim, hclaim, .inl rfl⟩

theorem Happens.keepsClaim {e : Event} {claim : BlockDeviceClaim} (h : Happens faults m e m')
    (hspares : SparesClaim key e) (hrewrites : ¬RewritesClaim key e)
    (hclaim : m.claims.get? key = some claim) :
    ∃ kept, m'.claims.get? key = some kept ∧ m.KeepsClaim key claim kept := by
  have hstep := h.claimStep key
  rw [hclaim] at hstep
  generalize hafter : m'.claims.get? key = after at hstep
  cases hstep with
  | kept _ _ => exact ⟨claim, rfl, .inl rfl⟩
  | read _ _ =>
    rw [← hafter]
    exact h.answers.keepsClaim_of_getClaim hclaim
  | replaced hname => exact absurd (rewritesClaim_iff.2 ⟨_, _, rfl, hname⟩) hrewrites
  | deleted => exact absurd rfl hspares

/-- What nobody deletes or replaces is kept to the end. -/
theorem Plays.keepsClaim {claim : BlockDeviceClaim} (h : Plays faults m t m')
    (hspares : ∀ e ∈ t, SparesClaim key e) (hrewrites : ∀ e ∈ t, ¬RewritesClaim key e)
    (hclaim : m.claims.get? key = some claim) :
    ∃ kept, m'.claims.get? key = some kept ∧ m.KeepsClaim key claim kept := by
  induction h generalizing claim with
  | done => exact ⟨claim, hclaim, .inl rfl⟩
  | next he _ ih =>
    rw [List.forall_mem_cons] at hspares hrewrites
    obtain ⟨next, hnext, hkept⟩ := he.keepsClaim hspares.1 hrewrites.1 hclaim
    obtain ⟨last, hlast, hkept'⟩ := ih hspares.2 hrewrites.2 hnext
    exact ⟨last, hlast, hkept.trans (hkept'.of_sameSetup he.sameSetup)⟩

/-! ### The first creation -/

/-- A claim as it is kept after its creation. -/
def madeIn (ns : String) (claim : BlockDeviceClaim) : BlockDeviceClaim :=
  { claim with metadata := { claim.metadata with ns := some ns } }

theorem createClaim_of_absent {made : BlockDeviceClaim} (hname : made.metadata.nameD = key.name)
    (habsent : m.claims.get? key = none) :
    (m.createClaim key.ns made).1 = .ok (madeIn key.ns made) ∧
      (m.createClaim key.ns made).2.claims.get? key = some (madeIn key.ns made) := by
  have hcontains : m.claims.contains key = false := congrArg Option.isSome habsent
  unfold createClaim
  dsimp only
  rw [hname, hcontains]
  exact ⟨rfl, KeyMap.get?_insert_self ..⟩

/-- A claim that comes to be there is made by the first creation that is asked for. -/
theorem Plays.exists_creation (h : Plays NoFaults m t m') (habsent : m.claims.get? key = none)
    (hpresent : m'.claims.contains key = true) :
    ∃ before made after m₁, t = before ++
        .called (.createClaim key.ns made) (.ok (madeIn key.ns made)) :: after ∧
      (∀ e ∈ before, ¬AsksForClaim key e) ∧ made.metadata.nameD = key.name ∧
      m.SameSetup m₁ ∧ m₁.claims.get? key = some (madeIn key.ns made) ∧ Plays NoFaults m₁ after m' := by
  induction h with
  | done =>
    rw [KeyMap.contains, habsent] at hpresent
    cases hpresent
  | @next m m₁ m' e t he hrest ih =>
    by_cases hasks : AsksForClaim key e
    · obtain ⟨made, hcall, hname⟩ := hasks
      cases e with
      | called c r =>
        obtain rfl : c = .createClaim key.ns made := Option.some.inj hcall
        obtain ⟨rfl, rfl⟩ := he.answers.eq_answer
        obtain ⟨hreply, hstored⟩ := createClaim_of_absent hname habsent
        refine ⟨[], made, t, _, ?_, by simp, hname, he.sameSetup, hstored, hrest⟩
        exact congrArg (fun r => Program.Event.called (Call.createClaim key.ns made) r :: t) hreply
      | _ => cases hcall
    · -- what is not asked for is still missing after the event
      have habsent' : m₁.claims.get? key = none := by
        have hstep := he.claimStep key
        rw [habsent] at hstep
        exact hstep.eq_none hasks
      obtain ⟨before, made, after, m₂, rfl, hfirst, hname, hsetup, hmade⟩ := ih habsent' hpresent
      exact ⟨e :: before, made, after, m₂, rfl, List.forall_mem_cons.2 ⟨hasks, hfirst⟩, hname,
        he.sameSetup.trans hsetup, hmade⟩

end NodeVolumes.Cluster.Memory
