import NodeVolumes.Proofs.Controller.Claims

/-! # Parked claims

The visit to a claim looks at what is parked for this claim alone, and changes nothing for claims of other uids.

* `Parked.AgreesOn`: the same ones of some claims are parked.
* `respects_serveClaim`: visits to these claims do not tell such parked claims apart.
* `parked_of_visit`: a visit parks its claim, frees it or leaves everything as it is.
* `visits_of_parked`: a claim that is parked is not provisioned until it changes. -/

namespace NodeVolumes.Controller

open Work (Path Respects)

variable {o : Options} {classes : List String} {claim other : PersistentVolumeClaim} {p q : Parked}
  {t : List Event} {uid version : String}

namespace Parked

/-! ### What is parked for one uid -/

theorem version?_eq_some_iff : version? claim = some (uid, version) ↔
    claim.metadata.uid = some uid ∧ claim.metadata.resourceVersion = some version := by
  unfold version?
  cases claim.metadata.uid with
  | none => simp
  | some own =>
    cases claim.metadata.resourceVersion with
    | none => simp
    | some version => simp

theorem holds_of_get? (hversion : version? claim = some (uid, version)) :
    p.holds claim = decide (p.versions.get? uid = some version) := by
  unfold holds
  rw [hversion]

theorem holds_of_none (hversion : version? claim = none) : p.holds claim = false := by
  unfold holds
  rw [hversion]

theorem get?_park_of_ne (h : claim.metadata.uid ≠ some uid) (e : Error) :
    (p.park claim e).versions.get? uid = p.versions.get? uid := by
  unfold park
  split
  · rfl
  · split
    case h_1 own version hversion =>
      have hne : own ≠ uid := by
        rintro rfl
        exact h (version?_eq_some_iff.1 hversion).1
      exact KeyMap.get?_insert_of_ne _ hne _
    case h_2 => rfl

theorem get?_free_of_ne (h : claim.metadata.uid ≠ some uid) :
    (p.free claim).versions.get? uid = p.versions.get? uid := by
  unfold free
  split
  case h_1 own hown =>
    have hne : own ≠ uid := by
      rintro rfl
      exact h hown
    rw [KeyMap.get?_erase, if_neg hne]
  case h_2 => rfl

theorem get?_park_self (hversion : version? claim = some (uid, version)) {e : Error}
    (he : e.isRetryable = false) : (p.park claim e).versions.get? uid = some version := by
  unfold park
  rw [if_neg (by simp [he]), hversion]
  exact KeyMap.get?_insert_self ..

theorem get?_keepListed {claims : List PersistentVolumeClaim} (hmem : claim ∈ claims)
    (h : claim.metadata.uid = some uid) (hp : p.versions.get? uid = some version) :
    (p.keepListed claims).versions.get? uid = some version := by
  have hlisted : claims.any (·.metadata.uid = some uid) = true :=
    List.any_eq_true.2 ⟨claim, hmem, decide_eq_true h⟩
  unfold keepListed
  rw [KeyMap.get?_filter, hp, Option.filter_some, if_pos hlisted]

theorem holds_congr (h : ∀ uid, claim.metadata.uid = some uid → p.versions.get? uid = q.versions.get? uid) :
    p.holds claim = q.holds claim := by
  cases hversion : version? claim with
  | none => rw [holds_of_none hversion, holds_of_none hversion]
  | some found =>
    obtain ⟨uid, version⟩ := found
    rw [holds_of_get? hversion, holds_of_get? hversion, h uid (version?_eq_some_iff.1 hversion).1]

theorem holds_park_of_ne {e : Error} (h : other.metadata.uid ≠ claim.metadata.uid) :
    (p.park claim e).holds other = p.holds other := by
  refine holds_congr fun uid huid => get?_park_of_ne ?_ e
  rw [← huid]
  exact h.symm

theorem holds_free_of_ne (h : other.metadata.uid ≠ claim.metadata.uid) :
    (p.free claim).holds other = p.holds other := by
  refine holds_congr fun uid huid => get?_free_of_ne ?_
  rw [← huid]
  exact h.symm

/-! ### The same claims are parked -/

/-- The same ones of some claims are parked. -/
def AgreesOn (claims : List PersistentVolumeClaim) (p q : Parked) : Prop :=
  ∀ claim ∈ claims, p.holds claim = q.holds claim

variable {claims : List PersistentVolumeClaim}

theorem AgreesOn.park (h : p.AgreesOn claims q) (claim : PersistentVolumeClaim) (e : Error) :
    (p.park claim e).AgreesOn claims (q.park claim e) := by
  intro other hother
  by_cases hsame : other.metadata.uid = claim.metadata.uid
  · unfold Parked.park
    split
    · exact h other hother
    · split
      case h_1 uid version hversion =>
        refine holds_congr fun own hown => ?_
        obtain ⟨huid, -⟩ := version?_eq_some_iff.1 hversion
        cases (hown.symm.trans hsame).trans huid
        rw [KeyMap.get?_insert_self, KeyMap.get?_insert_self]
      case h_2 => exact h other hother
  · rw [holds_park_of_ne hsame, holds_park_of_ne hsame]
    exact h other hother

theorem AgreesOn.free (h : p.AgreesOn claims q) (claim : PersistentVolumeClaim) :
    (p.free claim).AgreesOn claims (q.free claim) := by
  intro other hother
  by_cases hsame : other.metadata.uid = claim.metadata.uid
  · refine holds_congr fun uid huid => ?_
    have hclaim : claim.metadata.uid = some uid := hsame.symm.trans huid
    unfold Parked.free
    simp only [hclaim]
    rw [KeyMap.get?_erase, KeyMap.get?_erase, if_pos rfl, if_pos rfl]
  · rw [holds_free_of_ne hsame, holds_free_of_ne hsame]
    exact h other hother

theorem AgreesOn.symm (h : p.AgreesOn claims q) : q.AgreesOn claims p :=
  fun claim hclaim => (h claim hclaim).symm

end Parked

/-! ### Visits that do not tell parked claims apart -/

section
variable {claims : List PersistentVolumeClaim}

theorem respects_onFailure {ns name : String} {e : Error} :
    Respects (Parked.AgreesOn claims) (onFailure claim ns name e) := by
  have hpark : Respects (Parked.AgreesOn claims) (modify fun parked => parked.park claim e : Work PUnit) :=
    Work.respects_modify fun p q h => h.park claim e
  unfold onFailure
  split
  · refine Work.respects_bind ?_ fun _ => hpark
    refine Work.respects_bind (Work.respects_lift _) fun reply => ?_
    cases reply with
    | ok object => exact Work.respects_pure _
    | error e' => exact Work.respects_lift _
  · split
    · exact Work.respects_bind (Work.respects_lift _) fun _ => hpark
    · exact hpark

theorem respects_getOpt {kind : Kind} {name : String} :
    Respects (Parked.AgreesOn claims) (getOpt kind name) := by
  refine Work.respects_bind (Work.respects_lift _) fun reply => ?_
  cases reply with
  | ok object => exact Work.respects_pure _
  | error e =>
    simp only
    split
    · exact Work.respects_pure _
    · exact Work.respects_pure _

theorem respects_chosenNode {ns name : String} :
    Respects (Parked.AgreesOn claims) (chosenNode claim ns name) := by
  have hselected : Respects (Parked.AgreesOn claims) (selectedNode claim) := by
    unfold selectedNode
    split
    · exact Work.respects_pure _
    · refine Work.respects_bind respects_getOpt fun found => ?_
      cases found with
      | ok node => exact Work.respects_pure _
      | error e => exact Work.respects_pure _
  refine Work.respects_bind hselected fun found => ?_
  cases found with
  | ok node => exact Work.respects_pure _
  | error e => exact Work.respects_bind (Work.respects_lift _) fun _ => Work.respects_pure _

theorem respects_provisionAbsent {ns name volume : String} :
    Respects (Parked.AgreesOn claims) (provisionAbsent o claim ns name volume) := by
  refine Work.respects_bind respects_chosenNode fun node => ?_
  refine Work.respects_bind (Work.respects_lift _) fun outcome => ?_
  cases outcome with
  | error e => exact respects_onFailure
  | ok made =>
    refine Work.respects_bind (Work.respects_modify fun p q h => h.free claim) fun _ => ?_
    refine Work.respects_bind (Work.respects_lift _) fun reply => ?_
    cases reply with
    | ok object => exact Work.respects_pure _
    | error e => exact Work.respects_lift _

/-- The visit to a claim only looks whether this claim is parked. -/
theorem respects_serveClaim (h : claim ∈ claims) :
    Respects (Parked.AgreesOn claims) (serveClaim o classes claim) := by
  unfold serveClaim
  split
  · unfold provisionClaim
    split
    · exact Work.respects_lift _
    · refine Work.respects_get_bind (fun p => ?_) fun p q hagree => ?_
      · split
        · exact Work.respects_pure _
        · refine Work.respects_bind respects_getOpt fun found => ?_
          split
          · exact Work.respects_pure _
          · exact respects_provisionAbsent
          · exact Work.respects_lift _
      · rw [hagree claim h]
  · exact Work.respects_pure _

theorem respects_untilCancelled {α : Type} {R : Parked → Parked → Prop} {f : α → Work Unit}
    {items : List α} (hf : ∀ a ∈ items, Respects R (f a)) : Respects R (untilCancelled f items) := by
  induction items with
  | nil => exact Work.respects_pure _
  | cons a items ih =>
    obtain ⟨hfirst, hrest⟩ := List.forall_mem_cons.1 hf
    refine Work.respects_bind (Work.respects_lift _) fun cancelled => ?_
    cases cancelled with
    | true => exact Work.respects_pure _
    | false => exact Work.respects_bind hfirst fun _ => ih hrest

theorem path_reconcileClaims_congr (h : p.AgreesOn claims q) {cancelled : Bool} :
    (∃ p', Path (reconcileClaims o classes claims) p t cancelled p') ↔
      ∃ q', Path (reconcileClaims o classes claims) q t cancelled q' := by
  have hrespects : Respects (Parked.AgreesOn claims) (reconcileClaims o classes claims) :=
    respects_untilCancelled fun _ hclaim => respects_serveClaim hclaim
  constructor
  · rintro ⟨p', hp⟩
    obtain ⟨q', hq, -⟩ := hrespects p q h t cancelled p' hp
    exact ⟨q', hq⟩
  · rintro ⟨q', hq⟩
    obtain ⟨p', hp, -⟩ := hrespects q p h.symm t cancelled q' hq
    exact ⟨p', hp⟩

end

/-! ### What a visit parks -/

/-- A visit parks its claim, frees it or leaves everything as it is. -/
theorem parked_of_visit (h : Path (serveClaim o classes claim) p t () q) :
    q = p ∨ (∃ e, q = p.park claim e) ∨ q = p.free claim := by
  obtain ⟨hwhen, hunless⟩ := provisions_of_visit h
  by_cases hdue : IsDue classes ⟨claim, p, t, q⟩
  · obtain ⟨outcome, hprovisioned⟩ := hwhen hdue
    have hparked := hprovisioned.parked
    cases outcome with
    | ok made => exact .inr (.inr hparked)
    | error e => exact .inr (.inl ⟨e, hparked⟩)
  · exact .inl (hunless hdue).parked

theorem get?_of_visit (h : Path (serveClaim o classes claim) p t () q) (hne : claim.metadata.uid ≠ some uid) :
    q.versions.get? uid = p.versions.get? uid := by
  rcases parked_of_visit h with rfl | ⟨e, rfl⟩ | rfl
  · rfl
  · exact Parked.get?_park_of_ne hne e
  · exact Parked.get?_free_of_ne hne

theorem holds_of_visit (h : Path (serveClaim o classes claim) p t () q)
    (hne : other.metadata.uid ≠ claim.metadata.uid) : q.holds other = p.holds other := by
  rcases parked_of_visit h with rfl | ⟨e, rfl⟩ | rfl
  · rfl
  · exact Parked.holds_park_of_ne hne
  · exact Parked.holds_free_of_ne hne

theorem visit_of_parked (h : Path (serveClaim o classes claim) p t () q)
    (hp : p.versions.get? uid = some version)
    (hsame : claim.metadata.uid = some uid → claim.metadata.resourceVersion = some version) :
    q.versions.get? uid = some version ∧
      ∀ request outcome, (request, outcome) ∈ provisions t → request.claim.metadata.uid ≠ some uid := by
  by_cases huid : claim.metadata.uid = some uid
  · have hversion := Parked.version?_eq_some_iff.2 ⟨huid, hsame huid⟩
    have hholds : p.holds claim = true := by
      rw [Parked.holds_of_get? hversion, hp]
      simp
    have hundue : ¬IsDue classes ⟨claim, p, t, q⟩ := by
      intro hdue
      have hunparked : p.holds claim = false := hdue.unparked
      rw [hholds] at hunparked
      cases hunparked
    have hleft := (provisions_of_visit h).2 hundue
    have hnone : provisions t = [] := hleft.unprovisioned
    have hkept : q = p := hleft.parked
    rw [hkept, hnone]
    exact ⟨hp, by simp⟩
  · refine ⟨(get?_of_visit h huid).trans hp, fun request outcome hmem => ?_⟩
    obtain ⟨-, -, rfl, -⟩ := provisioned_of_visit h (mem_provisions_iff.1 hmem)
    exact huid

/-- While a claim is parked and has not changed, visits in turn do not provision it, and it stays parked. -/
theorem visits_of_parked {visits : List (Visit PersistentVolumeClaim)}
    (h : Visits (serveClaim o classes) p visits q) (hp : p.versions.get? uid = some version)
    (hsame : ∀ v ∈ visits, v.item.metadata.uid = some uid →
      v.item.metadata.resourceVersion = some version) :
    q.versions.get? uid = some version ∧
      ∀ request outcome, (request, outcome) ∈ provisions (eventsIn visits) →
        request.claim.metadata.uid ≠ some uid := by
  induction h with
  | nil p => exact ⟨hp, by simp [eventsIn, provisions]⟩
  | cons hvisit _ ih =>
    obtain ⟨hfirst, hrest⟩ := List.forall_mem_cons.1 hsame
    obtain ⟨hparked, hnone⟩ := visit_of_parked hvisit hp hfirst
    obtain ⟨hkept, hlater⟩ := ih hparked hrest
    refine ⟨hkept, fun request outcome hmem => ?_⟩
    rw [provisions_eventsIn, List.flatMap_cons, List.mem_append, ← provisions_eventsIn] at hmem
    rcases hmem with hmem | hmem
    · exact hnone request outcome hmem
    · exact hlater request outcome hmem

end NodeVolumes.Controller
