import NodeVolumes.Proofs.Device.Binding
import NodeVolumes.Proofs.Device.Finalizer

/-! # Released claims

A release reads a claim, writes it back without the finalizer and deletes it. Each of the three calls may
fail, and somebody else may delete the claim before any of them.

* `DropsFinalizer`: one claim is another one without a finalizer.
* `Device.InOrder`: what a release does to claims, and after what.
* `release_in_order`: every release keeps this order, and where no call fails it leaves everything but its
  claim as it was.
* `release_of_missing_claim`: a claim that turns out to be missing counts as released, unless it does so when
  it is written. -/

namespace NodeVolumes

open Cluster (Call Event Memory Reply error_mem_ok_cons)
open Cluster.Memory (NamesReads NoFaults Plays SameSetup callWorld undisturbed)
open Program.Event (calls)
open Attempt (Path)

namespace BlockDeviceClaim

/-- One claim is another one without a finalizer: the others are kept in their order, like all the rest. -/
structure DropsFinalizer (finalizer : String) (old new : BlockDeviceClaim) : Prop where
  absent : new.hasFinalizer finalizer = false
  finalizers : new.metadata.finalizers = old.metadata.finalizers.map (·.filter (· ≠ finalizer))
  metadata : new.metadata = { old.metadata with finalizers := new.metadata.finalizers }
  spec : new.spec = old.spec
  phase : new.phase = old.phase

theorem dropsFinalizer_removeFinalizer (c : BlockDeviceClaim) (finalizer : String) :
    c.DropsFinalizer finalizer (c.removeFinalizer finalizer) where
  absent := c.hasFinalizer_removeFinalizer finalizer
  finalizers := by
    unfold removeFinalizer
    simp only [ne_eq, decide_not]
  metadata := rfl
  spec := rfl
  phase := rfl

end BlockDeviceClaim

/-! ### Calls that fail -/

namespace Cluster

/-- Some call among the events has failed. -/
def Failed (t : List Event) : Prop := ∃ c e, .called c (.error e) ∈ t

/-- The calls among the events that have failed may do so. -/
def FailsBy (faults : Call → Error → Prop) (t : List Event) : Prop :=
  ∀ c e, .called c (.error e) ∈ t → faults c e

variable {faults : Call → Error → Prop} {t : List Event} {c : Call}

theorem not_failed_nil : ¬Failed [] := by
  rintro ⟨c, e, hmem⟩
  cases hmem

theorem failed_error_cons {e : Error} : Failed (.called c (.error e) :: t) :=
  ⟨c, e, List.mem_cons_self ..⟩

theorem failed_ok_cons {a : c.Answer} : Failed (.called c (.ok a) :: t) ↔ Failed t :=
  exists₂_congr fun _ _ => error_mem_ok_cons

theorem failsBy_nil : FailsBy faults [] := by
  rintro c e hmem
  cases hmem

theorem failsBy_error_cons {e : Error} :
    FailsBy faults (.called c (.error e) :: t) ↔ faults c e ∧ FailsBy faults t := by
  constructor
  · exact fun h => ⟨h c e (List.mem_cons_self ..), fun d e' hmem => h d e' (List.mem_cons_of_mem _ hmem)⟩
  · rintro ⟨hfault, h⟩ d e' hmem
    rcases List.mem_cons.1 hmem with heq | hmem
    · cases heq
      exact hfault
    · exact h d e' hmem

theorem failsBy_ok_cons {a : c.Answer} : FailsBy faults (.called c (.ok a) :: t) ↔ FailsBy faults t :=
  forall₂_congr fun _ _ => imp_congr_left error_mem_ok_cons

theorem FailsBy.not_failed (h : FailsBy NoFaults t) : ¬Failed t := by
  rintro ⟨c, e, hmem⟩
  exact h c e hmem

end Cluster

/-! ### A claim that is there -/

namespace Cluster.Memory

variable {faults : Call → Error → Prop} {m m' : Memory} {key : ObjectKey} {c : Call}

/-- The cluster itself refuses no call but a creation on a claim that is there. -/
theorem answer_ne_error {e : Error} (hkey : c.claimKey? = some key)
    (hmade : ∀ ns claim, c ≠ .createClaim ns claim) (hpresent : m.claims.contains key = true) :
    (m.answer c).1 ≠ .error e := by
  obtain ⟨claim, hclaim⟩ := Option.isSome_iff_exists.1 hpresent
  cases c with
  | getClaim ns name =>
    cases hkey
    unfold answer getClaim
    simp [hclaim]
  | createClaim ns claim => exact absurd rfl (hmade ns claim)
  | replaceClaim ns written =>
    cases hkey
    unfold answer replaceClaim
    simp [hpresent]
  | deleteClaim ns name =>
    cases hkey
    unfold answer deleteClaim
    simp [hpresent]
  | _ => cases hkey

theorem Answers.failed_of_present {e : Error} (h : m.Answers faults c (.error e) m')
    (hkey : c.claimKey? = some key) (hmade : ∀ ns claim, c ≠ .createClaim ns claim)
    (hpresent : m.claims.contains key = true) : faults c e ∧ m' = m := by
  generalize hr : (Except.error e : Reply c) = r at h
  cases h with
  | given => exact absurd hr.symm (answer_ne_error hkey hmade hpresent)
  | failed hfault =>
    cases hr
    exact ⟨hfault, rfl⟩

theorem Answers.claims_of_deleted {ns name : String} (h : m.Answers faults (.deleteClaim ns name) (.ok ()) m') :
    m'.claims.get? ⟨ns, name⟩ = none := by
  generalize hr : (Except.ok () : Reply (.deleteClaim ns name)) = r at h
  cases h with
  | failed _ => cases hr
  | given =>
    have hgiven : m.Answers NoFaults (.deleteClaim ns name) _ (m.answer (.deleteClaim ns name)).2 := .given
    exact hgiven.claims_of_deleteClaim fun _ => id

/-- One claim is gone from a cluster, and all other objects are as they were. -/
structure LacksOnly (key : ObjectKey) (m m' : Memory) : Prop extends SameSetup m m' where
  absent : m'.claims.get? key = none
  others : ∀ key', key' ≠ key → m'.claims.get? key' = m.claims.get? key'
  pods : m'.pods = m.pods

theorem LacksOnly.claims_eq (h : LacksOnly key m m') (habsent : m.claims.get? key = none) :
    m'.claims = m.claims := by
  apply KeyMap.ext_get?
  intro key'
  by_cases hkey : key' = key
  · rw [hkey, h.absent, habsent]
  · exact h.others key' hkey

end Cluster.Memory

/-! ### The order of calls -/

namespace Device

open Cluster (Failed FailsBy failed_error_cons failed_ok_cons failsBy_error_cons failsBy_nil failsBy_ok_cons
  not_failed_nil)

variable {settings : Settings} {claim : String} {t : List Event} {r : Except Error Unit}

/-- What a release does to claims, and after what. -/
structure InOrder (settings : Settings) (claim : String) (t : List Event) : Prop where
  /-- Nothing but one claim is read or deleted, and only claims are written. -/
  only : ∀ c ∈ calls t, c = .getClaim settings.ns claim ∨ c = .deleteClaim settings.ns claim ∨
    ∃ written, c = .replaceClaim settings.ns written
  /-- What has been read is written without the finalizer. -/
  write : ∀ pre ns written reply post, t = pre ++ .called (.replaceClaim ns written) reply :: post →
    ∃ current, .called (.getClaim ns claim) (.ok current) ∈ pre ∧
      current.DropsFinalizer localFinalizer written
  /-- The claim is deleted when it has been read without the finalizer or has been written without it. -/
  deletion : ∀ pre ns name reply post, t = pre ++ .called (.deleteClaim ns name) reply :: post →
    ∃ current, .called (.getClaim ns name) (.ok current) ∈ pre ∧
      (current.hasFinalizer localFinalizer = false ∨ ∃ written stored,
        .called (.replaceClaim ns written) (.ok stored) ∈ pre ∧
          written.hasFinalizer localFinalizer = false)

theorem InOrder.isOnClaim (h : InOrder settings claim t) : ∀ c ∈ calls t, c.isOnClaim = true := by
  intro c hc
  rcases h.only c hc with rfl | rfl | ⟨written, rfl⟩ <;> rfl

theorem InOrder.claimKey?_eq (h : InOrder settings claim t) (hreads : NamesReads ⟨settings.ns, claim⟩ t) :
    ∀ c ∈ calls t, c.claimKey? = some ⟨settings.ns, claim⟩ := by
  intro c hc
  rcases h.only c hc with rfl | rfl | ⟨written, rfl⟩
  · rfl
  · rfl
  · obtain ⟨reply, hmem⟩ := Program.Event.exists_mem_of_mem_calls hc
    obtain ⟨pre, post, rfl⟩ := List.append_of_mem hmem
    obtain ⟨current, hread, hdrops⟩ := h.write _ _ _ _ _ rfl
    have hname : current.metadata.nameD = claim := hreads current (List.mem_append_left _ hread)
    have hwritten : written.metadata.nameD = current.metadata.nameD := by
      rw [hdrops.metadata]
      rfl
    exact congrArg (fun name => some (ObjectKey.mk settings.ns name)) (hwritten.trans hname)

theorem inOrder_of_path (h : Path (release settings claim) t r) : InOrder settings claim t where
  only := by
    cases releaseShape_of_path h with
    | absent _ => simp
    | unread _ => simp
    | kept _ => simp
    | dropped _ => simp
    | unmarked _ => simp
  write := by
    rintro pre ns written reply post ht
    -- only the second event can be a replacement
    cases releaseShape_of_path h with
    | absent _ => rcases pre with _ | ⟨_, _ | _⟩ <;> cases ht
    | unread _ => rcases pre with _ | ⟨_, _ | _⟩ <;> cases ht
    | unmarked _ => rcases pre with _ | ⟨_, _ | ⟨_, _ | _⟩⟩ <;> cases ht
    | @kept current _ _ =>
      rcases pre with _ | ⟨_, _ | ⟨_, _ | _⟩⟩
      · cases ht
      · cases ht
        exact ⟨current, List.mem_cons_self .., current.dropsFinalizer_removeFinalizer _⟩
      · cases ht
      · cases ht
    | @dropped current _ _ _ =>
      rcases pre with _ | ⟨_, _ | ⟨_, _ | ⟨_, _ | _⟩⟩⟩
      · cases ht
      · cases ht
        exact ⟨current, List.mem_cons_self .., current.dropsFinalizer_removeFinalizer _⟩
      · cases ht
      · cases ht
      · cases ht
  deletion := by
    rintro pre ns name reply post ht
    -- only the last event can be a deletion
    cases releaseShape_of_path h with
    | absent _ => rcases pre with _ | ⟨_, _ | _⟩ <;> cases ht
    | unread _ => rcases pre with _ | ⟨_, _ | _⟩ <;> cases ht
    | kept _ => rcases pre with _ | ⟨_, _ | ⟨_, _ | _⟩⟩ <;> cases ht
    | @unmarked current _ hunmarked =>
      rcases pre with _ | ⟨_, _ | ⟨_, _ | _⟩⟩
      · cases ht
      · cases ht
        exact ⟨current, List.mem_cons_self .., .inl hunmarked⟩
      · cases ht
      · cases ht
    | @dropped current stored _ _ =>
      rcases pre with _ | ⟨_, _ | ⟨_, _ | ⟨_, _ | _⟩⟩⟩
      · cases ht
      · cases ht
      · cases ht
        exact ⟨current, List.mem_cons_self .., .inr ⟨_, stored, List.mem_cons_of_mem _ (List.mem_cons_self ..),
          current.hasFinalizer_removeFinalizer _⟩⟩
      · cases ht
      · cases ht

/-! ### Releases in a cluster -/

section
variable {faults : Call → Error → Prop} {m m' : Memory}

theorem InOrder.isOnPod (h : InOrder settings claim t) : ∀ c ∈ calls t, c.isOnPod = false := by
  intro c hc
  rcases h.only c hc with rfl | rfl | ⟨written, rfl⟩ <;> rfl

/-- Calls only fail on their way, and the claim under a key is gone in the end exactly when none has failed. -/
def GoneUnlessFailed (faults : Call → Error → Prop) (key : ObjectKey) (t : List Event) (m' : Memory) : Prop :=
  FailsBy faults t ∧ (m'.claims.get? key = none ↔ ¬Failed t)

variable {key : ObjectKey} {c : Call}

theorem goneUnlessFailed_error {e : Error} (h : Plays faults m [.called c (.error e)] m')
    (hkey : c.claimKey? = some key) (hmade : ∀ ns claim, c ≠ .createClaim ns claim)
    (hpresent : m.claims.contains key = true) : GoneUnlessFailed faults key [.called c (.error e)] m' := by
  obtain ⟨hfault, rfl⟩ := h.answers.failed_of_present hkey hmade hpresent
  have hkept : m'.claims.get? key ≠ none := Option.isSome_iff_ne_none.1 hpresent
  exact ⟨failsBy_error_cons.2 ⟨hfault, failsBy_nil⟩, iff_of_false hkept (not_not_intro failed_error_cons)⟩

theorem GoneUnlessFailed.ok_cons {a : c.Answer} (h : GoneUnlessFailed faults key t m') :
    GoneUnlessFailed faults key (.called c (.ok a) :: t) m' :=
  ⟨failsBy_ok_cons.2 h.1, h.2.trans (not_congr failed_ok_cons.symm)⟩

theorem goneUnlessFailed_deletion {deleted : Except Error Unit} (hpresent : m.claims.contains key = true)
    (h : Plays faults m [.called (.deleteClaim key.ns key.name) deleted] m') :
    GoneUnlessFailed faults key [.called (.deleteClaim key.ns key.name) deleted] m' := by
  cases deleted with
  | error e => exact goneUnlessFailed_error h rfl (by simp) hpresent
  | ok _ =>
    have hgone := h.answers.claims_of_deleted
    exact ⟨failsBy_ok_cons.2 failsBy_nil, iff_of_true hgone (mt failed_ok_cons.1 not_failed_nil)⟩

/-- When the claim of a release is there, calls only fail on their way, and the claim is gone afterwards
exactly when none has failed. -/
theorem goneUnlessFailed_of_release (h : Path (release settings claim) t r) (hplay : Plays faults m t m')
    (hnamed : m.NamedAt ⟨settings.ns, claim⟩) (hpresent : m.claims.contains ⟨settings.ns, claim⟩ = true) :
    GoneUnlessFailed faults ⟨settings.ns, claim⟩ t m' := by
  have hreads := hplay.run.namesReads hnamed
  cases releaseShape_of_path h with
  | absent _ => exact goneUnlessFailed_error hplay rfl (by simp) hpresent
  | unread _ => exact goneUnlessFailed_error hplay rfl (by simp) hpresent
  | unmarked _ =>
    cases hplay with
    | next hread hrest => exact (goneUnlessFailed_deletion hread.answers.contains_of_getClaim hrest).ok_cons
  | @kept current e _ =>
    have hname : current.metadata.nameD = claim := hreads current (List.mem_cons_self ..)
    have hkey : (Call.replaceClaim settings.ns (current.removeFinalizer localFinalizer)).claimKey? =
        some ⟨settings.ns, claim⟩ := congrArg (fun name => some (ObjectKey.mk settings.ns name)) hname
    cases hplay with
    | next hread hrest =>
      exact (goneUnlessFailed_error hrest hkey (by simp) hread.answers.contains_of_getClaim).ok_cons
  | dropped _ =>
    cases hplay with
    | @next _ m₁ _ _ _ hread hrest =>
      cases hrest with
      | next hwrite hrest =>
        have hthere : m₁.claims.contains ⟨settings.ns, claim⟩ = true := hread.answers.contains_of_getClaim
        have hwritten : Plays faults _ [_] _ := .next hwrite .done
        have hstays := hwritten.contains_of_spares (by simp [Cluster.Memory.SparesClaim]) hthere
        exact (goneUnlessFailed_deletion hstays hrest).ok_cons.ok_cons

theorem ReleaseShape.eq_ok (h : ReleaseShape settings claim t r) (ht : ¬Failed t) : r = .ok () := by
  have hdeleted {u : List Event} {deleted : Except Error Unit}
      (hu : ¬Failed (.called (.deleteClaim settings.ns claim) deleted :: u)) :
      removed claim deleted = .ok () := by
    cases deleted with
    | ok _ => rfl
    | error e => exact absurd failed_error_cons hu
  cases h with
  | absent _ => rfl
  | unread _ => exact absurd failed_error_cons ht
  | kept _ => exact absurd (failed_ok_cons.2 failed_error_cons) ht
  | dropped _ => exact hdeleted fun hfailed => ht (failed_ok_cons.2 (failed_ok_cons.2 hfailed))
  | unmarked _ => exact hdeleted fun hfailed => ht (failed_ok_cons.2 hfailed)

theorem release_eq_ok (h : Path (release settings claim) t r) (hplay : Plays NoFaults m t m')
    (hnamed : m.NamedAt ⟨settings.ns, claim⟩) : r = .ok () := by
  cases hpresent : m.claims.contains ⟨settings.ns, claim⟩ with
  | true =>
    have hgone := goneUnlessFailed_of_release h hplay hnamed hpresent
    exact (releaseShape_of_path h).eq_ok hgone.1.not_failed
  | false =>
    have habsent : m.claims.get? ⟨settings.ns, claim⟩ = none := by
      simpa [KeyMap.contains] using hpresent
    have hread {current : BlockDeviceClaim} {n : Memory}
        (h : m.Answers NoFaults (.getClaim settings.ns claim) (.ok current) n) : False := by
      obtain ⟨old, hold, -⟩ := h.claims_of_getClaim
      rw [habsent] at hold
      cases hold
    cases releaseShape_of_path h with
    | absent _ => rfl
    | unread hother =>
      have hmissing := Cluster.Memory.isNotFound_of_getClaim hplay.answers.eq_answer.1.symm
      rw [hother] at hmissing
      cases hmissing
    | kept _ => cases hplay with | next hevent _ => exact (hread hevent.answers).elim
    | dropped _ => cases hplay with | next hevent _ => exact (hread hevent.answers).elim
    | unmarked _ => cases hplay with | next hevent _ => exact (hread hevent.answers).elim

theorem lacksOnly_of_release (h : Path (release settings claim) t r) (hplay : Plays NoFaults m t m')
    (hnamed : m.NamedAt ⟨settings.ns, claim⟩) : m.LacksOnly ⟨settings.ns, claim⟩ m' := by
  obtain rfl := release_eq_ok h hplay hnamed
  have horder := inOrder_of_path h
  refine ⟨hplay.sameSetup, get?_claims_of_release h hplay.run (fun _ => id) (fun _ => id), ?_,
    hplay.run.pods_of_calls horder.isOnPod⟩
  intro key hne
  apply hplay.run.get?_claims_of_ne
  intro c hc hkey
  rw [horder.claimKey?_eq (hplay.run.namesReads hnamed) c hc] at hkey
  exact hne (Option.some.inj hkey).symm

end

/-- Releases keep their order and take nothing but their claim.

Whatever it is answered, a release only deletes the claim when it has read it without the finalizer, or has
written it without the finalizer and been told so. What it writes is what it has read, without any occurrence
of the finalizer; and where reads give claims of the name that is asked for, it makes no call on anything else.
On a cluster in memory where no call fails, it succeeds, the claim is gone and all other objects are as they
were, and a second release succeeds and changes no object. -/
theorem release_in_order (settings : Settings) (claim : String) :
    (∀ t r, Path (release settings claim) t r → InOrder settings claim t ∧
      (NamesReads ⟨settings.ns, claim⟩ t → ∀ c ∈ calls t, c.claimKey? = some ⟨settings.ns, claim⟩)) ∧
    ∀ (m m₁ m₂ : Memory) (patience patience₁ patience₂ : Option Nat) (r₁ r₂ : Except Error Unit), m.Made →
      undisturbed.run (release settings claim).run (m, patience) = (r₁, m₁, patience₁) →
      undisturbed.run (release settings claim).run (m₁, patience₁) = (r₂, m₂, patience₂) →
        (r₁ = .ok () ∧ m.LacksOnly ⟨settings.ns, claim⟩ m₁) ∧
          r₂ = .ok () ∧ m₁.SameSetup m₂ ∧ m₂.claims = m₁.claims ∧ m₂.pods = m₁.pods := by
  have hruns {m m' : Memory} {patience patience' : Option Nat} {r : Except Error Unit}
      (hnamed : m.NamedAt ⟨settings.ns, claim⟩)
      (hrun : undisturbed.run (release settings claim).run (m, patience) = (r, m', patience')) :
      r = .ok () ∧ m.LacksOnly ⟨settings.ns, claim⟩ m' := by
    have hpath := World.path_run undisturbed (release settings claim).run (m, patience)
    have hplay := Cluster.Memory.plays_undisturbed (release settings claim).run m patience
    rw [hrun] at hpath hplay
    exact ⟨release_eq_ok hpath hplay hnamed, lacksOnly_of_release hpath hplay hnamed⟩
  constructor
  · intro t r h
    exact ⟨inOrder_of_path h, (inOrder_of_path h).claimKey?_eq⟩
  · intro m m₁ m₂ patience patience₁ patience₂ r₁ r₂ hm hfirst hsecond
    obtain ⟨hr₁, hlacks⟩ := hruns (hm.namedAt _) hfirst
    have hnamed : m₁.NamedAt ⟨settings.ns, claim⟩ := by
      intro current hcurrent
      rw [hlacks.absent] at hcurrent
      cases hcurrent
    obtain ⟨hr₂, hlacks₂⟩ := hruns hnamed hsecond
    exact ⟨⟨hr₁, hlacks⟩, hr₂, hlacks₂.toSameSetup, hlacks₂.claims_eq hlacks.absent, hlacks₂.pods⟩

end Device

namespace Small

/-- A claim that carries the finalizer twice, and another one in between. -/
def heldClaim : BlockDeviceClaim where
  metadata :=
    { name := some "bdc-pvc-1"
      ns := some "openebs"
      finalizers := some [localFinalizer, "foregroundDeletion", localFinalizer] }
  spec := { deviceName := "disk" }

/-- The claim when it has been written back. -/
def droppedClaim : BlockDeviceClaim :=
  { heldClaim with metadata := { heldClaim.metadata with finalizers := some ["foregroundDeletion"] } }

/-- A cluster with this claim. -/
def heldCluster : Memory := ({} : Memory).addClaim "openebs" heldClaim

theorem made_heldCluster : heldCluster.Made := .addClaim "openebs" heldClaim .empty

/-- The release of this claim. -/
def releaseHeld : Engine (Except Error Unit) := (Device.release settings "bdc-pvc-1").run

end Small

/-- The claim is read, written with the other finalizer alone, and deleted. -/
theorem release_in_order_held :
    let events := undisturbed.trace Small.releaseHeld (Small.heldCluster, none)
    let after := (undisturbed.run Small.releaseHeld (Small.heldCluster, none)).2
    .called (.replaceClaim "openebs" Small.droppedClaim) (.ok Small.droppedClaim) ∈ events ∧
      Device.InOrder Small.settings "bdc-pvc-1" events ∧
      Small.heldCluster.LacksOnly ⟨"openebs", "bdc-pvc-1"⟩ after.1 ∧
      (undisturbed.run Small.releaseHeld after).1 = .ok () := by
  intro events after
  obtain ⟨horder, hcluster⟩ := Device.release_in_order Small.settings "bdc-pvc-1"
  obtain ⟨⟨-, hlacks⟩, hagain, -⟩ := hcluster _ _ _ _ _ _ _ _ Small.made_heldCluster rfl rfl
  exact ⟨by decide +kernel, (horder _ _ (World.path_run ..)).1, hlacks, hagain⟩

namespace Device

variable {settings : Settings} {claim : String} {t : List Event} {r : Except Error Unit}

/-! ### Claims that are missing -/

/-- A claim that turns out to be missing when it is read or deleted counts as released. One that turns out to
be missing when it is written does not: the release ends with the error of the finalizer. -/
theorem release_of_missing_claim (h : Path (release settings claim) t r) {c : Call} {kind name : String}
    (hmissing : .called c (.error (.resourceNotFound kind name)) ∈ t) :
    ((∀ ns written, c ≠ .replaceClaim ns written) → r = .ok ()) ∧
      ∀ ns written, c = .replaceClaim ns written →
        r = .error (finalizerError claim (.resourceNotFound kind name)) ∧
          ∀ ns' name', .deleteClaim ns' name' ∉ calls t := by
  cases releaseShape_of_path h with
  | absent _ =>
    cases List.mem_singleton.1 hmissing
    exact ⟨fun _ => rfl, fun ns written hc => by cases hc⟩
  | unread hother =>
    cases List.mem_singleton.1 hmissing
    cases hother
  | kept _ =>
    cases List.mem_singleton.1 (error_mem_ok_cons.1 hmissing)
    refine ⟨fun hc => absurd rfl (hc _ _), fun ns written _ => ⟨rfl, ?_⟩⟩
    simp
  | dropped _ =>
    cases List.mem_singleton.1 (error_mem_ok_cons.1 (error_mem_ok_cons.1 hmissing))
    exact ⟨fun _ => rfl, fun ns written hc => by cases hc⟩
  | unmarked _ =>
    cases List.mem_singleton.1 (error_mem_ok_cons.1 hmissing)
    exact ⟨fun _ => rfl, fun ns written hc => by cases hc⟩

end Device

namespace Small

/-- Somebody else deletes the claim when it has been read. -/
def vanishingEvents : List Event :=
  let read := heldCluster.getClaim "openebs" "bdc-pvc-1"
  let vanished := (read.2.deleteClaim "openebs" "bdc-pvc-1").2
  [.called (.getClaim "openebs" "bdc-pvc-1") read.1,
    .called (.replaceClaim "openebs" droppedClaim) (vanished.replaceClaim "openebs" droppedClaim).1]

/-- The error for the claim that has vanished. -/
def vanished : Error := .resourceNotFound "BlockDeviceClaim" "bdc-pvc-1"

theorem path_vanishingEvents : Path (Device.release settings "bdc-pvc-1") vanishingEvents
    (.error (Device.finalizerError "bdc-pvc-1" vanished)) := by
  have hevents : vanishingEvents = [.called (.getClaim "openebs" "bdc-pvc-1") (.ok heldClaim),
      .called (.replaceClaim "openebs" (heldClaim.removeFinalizer localFinalizer)) (.error vanished)] := by
    decide +kernel
  rw [hevents]
  exact (Device.ReleaseShape.kept (by decide +kernel)).path

theorem mem_vanishingEvents :
    .called (.replaceClaim "openebs" droppedClaim) (.error vanished) ∈ vanishingEvents := by decide +kernel

end Small

/-- The claim is gone when it is to be written, so the release fails and deletes nothing. -/
theorem release_of_missing_claim_vanishing :
    (.called (.replaceClaim "openebs" Small.droppedClaim)
        (.error (.resourceNotFound "BlockDeviceClaim" "bdc-pvc-1")) ∈ Small.vanishingEvents) ∧
      ∀ ns name, .deleteClaim ns name ∉ calls Small.vanishingEvents :=
  ⟨Small.mem_vanishingEvents,
    ((Device.release_of_missing_claim Small.path_vanishingEvents Small.mem_vanishingEvents).2 _ _ rfl).2⟩

/-- A claim that turns out to be missing does not always count as released. -/
theorem not_release_of_missing_claim :
    ¬∀ (settings : Settings) (claim : String) (t : List Event) (r : Except Error Unit),
      Path (Device.release settings claim) t r → ∀ c kind name,
        .called c (.error (.resourceNotFound kind name)) ∈ t → r = .ok () := by
  intro h
  cases h _ _ _ _ Small.path_vanishingEvents _ _ _ Small.mem_vanishingEvents

end NodeVolumes
