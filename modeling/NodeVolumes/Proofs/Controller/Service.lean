import Mathlib.Data.List.Pairwise
import NodeVolumes.Proofs.Controller.Parked
import NodeVolumes.Proofs.Controller.Server
import NodeVolumes.Proofs.Engine

/-! # Service of claims

A pass provisions a volume for each listed claim that is due, and creates its persistent volume when it is made.
A claim that has failed for good is left alone as long as it is listed unchanged.

* `ServesClaims`: how a pass serves claims.
* `HaveOwnUids`: no two claims of a list have one uid.
* `PassShape.parks`, `PassShape.keeps`: what fails for good is parked, and stays so.
* `claims_are_served`: all passes serve claims in this way. -/

namespace NodeVolumes.Controller

open Program (Expands)
open Work (Path)

variable {o : Options} {p q : Parked} {log : List Event} {uid version : String}

/-! ### One pass -/

/-- How a pass serves claims, from what is parked before it to what is parked after it. -/
inductive ServesClaims (o : Options) (p : Parked) : List Event → Parked → Prop
  /-- A pass that does not get its lists makes nothing. -/
  | unlisted {log : List Event} : (∀ claims, listing .persistentVolumeClaim (.ok claims) ∉ log) →
      provisions log = [] → creations log = [] → ServesClaims o p log p
  /-- The listed claims are visited in turn, until the pass finds that it has been cancelled. A volume is
  provisioned for those that are due, and nothing is done for the others or made after the visits. -/
  | listed {classes : List StorageClass} {claims rest : List PersistentVolumeClaim}
      {visits : List (Visit PersistentVolumeClaim)} {cancelled : Bool} {tail : List Event} {q : Parked} :
      claims = visits.map (·.item) ++ rest → (cancelled = true ↔ rest ≠ []) →
      Visits (serveClaim o (ourClasses o classes)) (p.keepListed claims) visits q →
      (∀ v ∈ visits, IsDue (ourClasses o classes) v → ∃ outcome, IsProvisioned o v outcome) →
      (∀ v ∈ visits, ¬IsDue (ourClasses o classes) v → IsLeft v) →
      provisions tail = [] → creations tail = [] →
      ServesClaims o p (listing .storageClass (.ok classes) :: listing .persistentVolumeClaim (.ok claims) ::
        (eventsIn visits ++ ending cancelled ++ tail)) q

theorem servesClaims_of_shape (h : PassShape o p log q) : ServesClaims o p log q := by
  cases h with
  | unlisted haside hunlisted =>
    exact .unlisted hunlisted (provisions_of_isAside haside) (creations_of_isAside haside)
  | visited hclaims hcancelled hvisits htail =>
    obtain ⟨hprovisions, hcreations⟩ := nothing_made_of_volumesPart htail
    refine .listed hclaims hcancelled hvisits (fun v hv => ?_) (fun v hv => ?_) hprovisions hcreations
    · exact (provisions_of_visit (hvisits.path_of_mem v hv)).1
    · exact (provisions_of_visit (hvisits.path_of_mem v hv)).2

/-! ### Claims that have failed for good -/

/-- No two of the claims have one uid. -/
def HaveOwnUids (claims : List PersistentVolumeClaim) : Prop :=
  claims.Pairwise fun c d => ∀ uid, c.metadata.uid = some uid → d.metadata.uid ≠ some uid

theorem HaveOwnUids.eq {claims : List PersistentVolumeClaim} (h : HaveOwnUids claims)
    {c d : PersistentVolumeClaim} (hc : c ∈ claims) (hd : d ∈ claims) (huid : c.metadata.uid = some uid)
    (huid' : d.metadata.uid = some uid) : c = d := by
  by_contra hne
  have hsymm : Std.Symm fun c d : PersistentVolumeClaim =>
      ∀ uid, c.metadata.uid = some uid → d.metadata.uid ≠ some uid :=
    ⟨fun c d h uid hd hc => h uid hc hd⟩
  exact List.Pairwise.forall h hc hd hne uid huid huid'

theorem HaveOwnUids.version_eq {claims : List PersistentVolumeClaim} (h : HaveOwnUids claims)
    {c : PersistentVolumeClaim} (hc : c ∈ claims) (huid : c.metadata.uid = some uid)
    (hversion : c.metadata.resourceVersion = some version) :
    ∀ d ∈ claims, d.metadata.uid = some uid → d.metadata.resourceVersion = some version := by
  intro d hd hsome
  rw [h.eq hd hc hsome huid, hversion]

/-- A claim that fails for good is parked, and not provisioned again in the same pass. -/
theorem PassShape.parks {pre post : List Event} {request : ProvisionRequest} {e : Error}
    (h : PassShape o p log q) (hlog : log = pre ++ .called (.provision request) (.error e) :: post)
    (he : e.isRetryable = false) (huid : request.claim.metadata.uid = some uid)
    (hversion : request.claim.metadata.resourceVersion = some version)
    (hown : ∀ claims, listing .persistentVolumeClaim (.ok claims) ∈ log → HaveOwnUids claims) :
    q.versions.get? uid = some version ∧
      ∀ again outcome, (again, outcome) ∈ provisions post → again.claim.metadata.uid ≠ some uid := by
  obtain ⟨classes, claims, rest, earlier, visit, later, cancelled, u, w, tail, hclaims, hvisits, htail,
    hevents, rfl, rfl⟩ := h.visit_of_made hlog (by simp [provision?])
  obtain ⟨p₁, -, hrest⟩ := hvisits.of_append
  cases hrest with
  | @cons claim _ p₂ _ t _ hvisit hlater =>
    simp only at hevents
    have hmem : .called (.provision request) (.error e) ∈ t := by simp [hevents]
    obtain ⟨-, hprovisioned, rfl, -⟩ := provisioned_of_visit hvisit hmem
    have hparked : p₂ = p₁.park request.claim e := hprovisioned.parked
    have hpark : p₂.versions.get? uid = some version := by
      rw [hparked]
      exact Parked.get?_park_self (Parked.version?_eq_some_iff.2 ⟨huid, hversion⟩) he
    have hsame : ∀ v ∈ later, v.item.metadata.uid = some uid →
        v.item.metadata.resourceVersion = some version := by
      have hlisted : HaveOwnUids claims := hown claims (by simp [hlog])
      have hmem : request.claim ∈ claims := by simp [hclaims]
      intro v hv
      refine hlisted.version_eq hmem huid hversion v.item ?_
      rw [hclaims]
      exact List.mem_append_left _ (List.mem_map_of_mem (by simp [hv]))
    obtain ⟨hkept, hnone⟩ := visits_of_parked hlater hpark hsame
    have honce : provisions w = [] := by
      obtain ⟨volume, node, -, hprovisions⟩ := hprovisioned.once
      simp only [hevents, provisions_append, provisions_provision_cons] at hprovisions
      rcases List.append_eq_singleton_iff.1 hprovisions with ⟨-, hcons⟩ | ⟨-, hcons⟩
      · exact (List.cons.inj hcons).2
      · cases hcons
    refine ⟨hkept, fun again outcome hmem => ?_⟩
    rw [provisions_append, provisions_append, provisions_append, honce,
      provisions_of_isAside isAside_ending, (nothing_made_of_volumesPart htail).1] at hmem
    exact hnone again outcome (by simpa using hmem)

/-- A claim that is parked is not provisioned in a pass that lists it unchanged, and stays parked. -/
theorem PassShape.keeps (h : PassShape o p log q) (hp : p.versions.get? uid = some version)
    (hown : ∀ claims, listing .persistentVolumeClaim (.ok claims) ∈ log → HaveOwnUids claims)
    (hlisted : ∀ claims, listing .persistentVolumeClaim (.ok claims) ∈ log → ∃ c ∈ claims,
      c.metadata.uid = some uid ∧ c.metadata.resourceVersion = some version) :
    q.versions.get? uid = some version ∧
      ∀ again outcome, (again, outcome) ∈ provisions log → again.claim.metadata.uid ≠ some uid := by
  cases h with
  | unlisted haside _ =>
    rw [provisions_of_isAside haside]
    exact ⟨hp, by simp⟩
  | @visited classes claims rest visits cancelled tail q hclaims _ hvisits htail =>
    obtain ⟨c, hc, huid, hversion⟩ := hlisted claims (by simp)
    have hsame : ∀ v ∈ visits, v.item.metadata.uid = some uid →
        v.item.metadata.resourceVersion = some version := by
      have hown : HaveOwnUids claims := hown claims (by simp)
      intro v hv
      refine hown.version_eq hc huid hversion v.item ?_
      rw [hclaims]
      exact List.mem_append_left _ (List.mem_map_of_mem hv)
    obtain ⟨hkept, hnone⟩ := visits_of_parked hvisits (Parked.get?_keepListed hc huid hp) hsame
    refine ⟨hkept, fun again outcome hmem => ?_⟩
    unfold listing at hmem
    rw [provisions_api_cons, provisions_api_cons, provisions_append, provisions_append,
      provisions_of_isAside isAside_ending, (nothing_made_of_volumesPart htail).1] at hmem
    exact hnone again outcome (by simpa using hmem)

theorem Passes.keeps {runs : List (List Event × List Api.Event)} (h : Passes o p runs q)
    (hp : p.versions.get? uid = some version)
    (hown : ∀ run ∈ runs, ∀ claims, listing .persistentVolumeClaim (.ok claims) ∈ run.1 →
      HaveOwnUids claims)
    (hlisted : ∀ run ∈ runs, ∀ claims, listing .persistentVolumeClaim (.ok claims) ∈ run.1 → ∃ c ∈ claims,
      c.metadata.uid = some uid ∧ c.metadata.resourceVersion = some version) :
    ∀ run ∈ runs, ∀ again outcome, (again, outcome) ∈ provisions run.1 →
      again.claim.metadata.uid ≠ some uid := by
  induction h with
  | nil => simp
  | cons hpass _ _ ih =>
    obtain ⟨hownFirst, hownRest⟩ := List.forall_mem_cons.1 hown
    obtain ⟨hlistedFirst, hlistedRest⟩ := List.forall_mem_cons.1 hlisted
    obtain ⟨hkept, hnone⟩ := (passShape_of_path hpass).keeps hp hownFirst hlistedFirst
    exact List.forall_mem_cons.2 ⟨hnone, ih hkept hownRest hlistedRest⟩

/-! ### All passes -/

/-- A pass provisions and creates volumes for the claims that are due. The visit to a claim changes nothing in how
the following ones are handled, unless one of its uid is parked or freed by it. A claim that has failed for good
is not provisioned again while it is listed unchanged. -/
theorem claims_are_served (o : Options) :
    (∀ p t r q, ((reconcileOnce o).run p).Path t (r, q) → ∃ log, Expands (Task.perform o.settings) log t ∧
      serverCreations t = creations log ∧ ServesClaims o p log q) ∧
    (∀ classes claim following p t q, Path (serveClaim o classes claim) p t () q →
      (∀ other ∈ following, other.metadata.uid = claim.metadata.uid → q.holds other = p.holds other) →
      ∀ u cancelled, (∃ q', Path (reconcileClaims o classes following) p u cancelled q') ↔
        ∃ q', Path (reconcileClaims o classes following) q u cancelled q') ∧
    ∀ p q earlier log t later pre post request e uid version,
      Passes o p (earlier ++ (log, t) :: later) q → log = pre ++ .called (.provision request) (.error e) :: post →
      e.isRetryable = false → request.claim.metadata.uid = some uid →
      request.claim.metadata.resourceVersion = some version →
      (∀ run ∈ (log, t) :: later, ∀ claims, listing .persistentVolumeClaim (.ok claims) ∈ run.1 →
        HaveOwnUids claims) →
      (∀ run ∈ later, ∀ claims, listing .persistentVolumeClaim (.ok claims) ∈ run.1 → ∃ c ∈ claims,
        c.metadata.uid = some uid ∧ c.metadata.resourceVersion = some version) →
      (∀ again outcome, (again, outcome) ∈ provisions post → again.claim.metadata.uid ≠ some uid) ∧
        ∀ run ∈ later, ∀ again outcome, (again, outcome) ∈ provisions run.1 →
          again.claim.metadata.uid ≠ some uid := by
  refine ⟨?_, ?_, ?_⟩
  · intro p t r q h
    obtain ⟨log, hlog, hexpands⟩ := path_reconcileOnce_iff.1 h
    exact ⟨log, hexpands, serverCreations_eq hexpands, servesClaims_of_shape (passShape_of_path hlog)⟩
  · intro classes claim following p t q hvisit hsame u cancelled
    refine path_reconcileClaims_congr fun other hother => ?_
    by_cases huid : other.metadata.uid = claim.metadata.uid
    · exact (hsame other hother huid).symm
    · exact (holds_of_visit hvisit huid).symm
  · intro p q earlier log t later pre post request e uid version hpasses hlog he huid hversion hown hlisted
    obtain ⟨p₁, -, hrest⟩ := hpasses.of_append
    obtain ⟨hownFirst, hownLater⟩ := List.forall_mem_cons.1 hown
    cases hrest with
    | cons hpass _ hlater =>
      obtain ⟨hkept, hnone⟩ := (passShape_of_path hpass).parks hlog he huid hversion hownFirst
      exact ⟨hnone, hlater.keeps hkept hownLater hlisted⟩

/-! ### A claim that is refused -/

namespace Small

/-- A claim that selects volumes by labels, which is refused. -/
def selectingClaim : PersistentVolumeClaim where
  metadata :=
    { name := some "data"
      uid := some "1"
      resourceVersion := some "7"
      annotations := some (KeyMap.singleton selectedNodeKey "node-1") }
  spec := some { storageClassName := some "local", selector := some {} }

/-- The same claim with a uid of its own. -/
def otherClaim : PersistentVolumeClaim :=
  { selectingClaim with metadata := { selectingClaim.metadata with uid := some "2" } }

/-- The request for a volume of the first claim; its node has gone. -/
def selectingRequest : ProvisionRequest := ⟨"pvc-1", selectingClaim, none⟩

def refusal : Error := .invalidRequest "claim.Spec.Selector is not supported"

/-- What is parked when the claim has been refused. -/
def refused : Parked := ⟨KeyMap.singleton "1" "7"⟩

/-- A server where this is the only claim. -/
def selectingServer : World Api.Call Api.Reply Note Unit :=
  server [Small.storageClass ""] [selectingClaim] []

/-- What the controller does in a pass. -/
def logFrom (p : Parked) : List Event :=
  (selectingServer.through (Task.perform {})).trace ((pass {}).run p) ()

/-- What a pass comes to on the server. -/
def eventsFrom (p : Parked) : List Api.Event := selectingServer.trace ((reconcileOnce {}).run p) ()

/-- What the controller does in the visit to the claim. -/
def visitEvents : List Event :=
  (selectingServer.through (Task.perform {})).trace ((serveClaim {} ["local"] selectingClaim).run {}) ()

theorem visitEvents_eq : ∃ note, visitEvents =
    [lookup .persistentVolume "pvc-1" (.error absence), lookup .node "node-1" (.error absence),
      .called (.provision selectingRequest) (.error refusal), .told note] := ⟨_, rfl⟩

theorem path_visitEvents : Path (serveClaim {} ["local"] selectingClaim) {} visitEvents () refused :=
  World.path_run _ _ _

theorem mem_visitEvents : .called (.provision selectingRequest) (.error refusal) ∈ visitEvents := by
  obtain ⟨note, hevents⟩ := visitEvents_eq
  simp [hevents]

theorem logFrom_empty : logFrom {} =
    listing .storageClass (.ok [Small.storageClass ""]) ::
      listing .persistentVolumeClaim (.ok [selectingClaim]) ::
      .polled false :: (visitEvents ++ [listing .persistentVolume (.ok [])]) := rfl

theorem logFrom_refused : logFrom refused =
    [listing .storageClass (.ok [Small.storageClass ""]),
      listing .persistentVolumeClaim (.ok [selectingClaim]), .polled false,
      listing .persistentVolume (.ok [])] := rfl

theorem passes_selecting : Passes {} {} [(logFrom {}, eventsFrom {}), (logFrom refused, eventsFrom refused)]
    refused :=
  have hexpands (p : Parked) : Expands (Task.perform {}) (logFrom p) (eventsFrom p) :=
    selectingServer.expands_trace _ _ ()
  have hfirst : Path (pass {}) {} (logFrom {}) (.ok ()) refused := World.path_run _ _ _
  have hsecond : Path (pass {}) refused (logFrom refused) (.ok ()) refused := World.path_run _ _ _
  .cons hfirst (hexpands {}) (.cons hsecond (hexpands refused) (.nil refused))

theorem listed_of_logFrom {p : Parked} (hp : p = {} ∨ p = refused) {claims : List PersistentVolumeClaim}
    (h : listing .persistentVolumeClaim (.ok claims) ∈ logFrom p) : claims = [selectingClaim] := by
  obtain ⟨note, hevents⟩ := visitEvents_eq
  rcases hp with rfl | rfl
  · rw [logFrom_empty, hevents] at h
    simpa [listing, lookup] using h
  · rw [logFrom_refused] at h
    simpa [listing] using h

end Small

theorem claims_are_served_refused :
    (∃ log, Expands (Task.perform {}) log (Small.eventsFrom {}) ∧
      serverCreations (Small.eventsFrom {}) = creations log ∧ ServesClaims {} {} log Small.refused) ∧
    (∀ u cancelled, (∃ q, Path (reconcileClaims {} ["local"] [Small.otherClaim]) {} u cancelled q) ↔
      ∃ q, Path (reconcileClaims {} ["local"] [Small.otherClaim]) Small.refused u cancelled q) ∧
    ∀ again outcome, (again, outcome) ∈ provisions (Small.logFrom Small.refused) →
      again.claim.metadata.uid ≠ some "1" := by
  obtain ⟨hpass, hvisit, hpasses⟩ := claims_are_served {}
  refine ⟨?_, ?_, ?_⟩
  · exact hpass {} (Small.eventsFrom {}) (.ok ()) Small.refused (World.path_run Small.selectingServer _ ())
  · refine hvisit _ _ _ _ _ _ Small.path_visitEvents fun other hother huid => ?_
    cases List.mem_singleton.1 hother
    exact absurd huid (by decide)
  · obtain ⟨pre, post, hlog⟩ : ∃ pre post, Small.logFrom {} =
        pre ++ .called (.provision Small.selectingRequest) (.error Small.refusal) :: post := by
      refine List.append_of_mem ?_
      rw [Small.logFrom_empty]
      simp [Small.mem_visitEvents]
    have hown : ∀ run ∈ [(Small.logFrom {}, Small.eventsFrom {}),
        (Small.logFrom Small.refused, Small.eventsFrom Small.refused)],
        ∀ claims, listing .persistentVolumeClaim (.ok claims) ∈ run.1 → HaveOwnUids claims := by
      refine List.forall_mem_cons.2 ⟨fun claims h => ?_, List.forall_mem_singleton.2 fun claims h => ?_⟩
      · rw [Small.listed_of_logFrom (.inl rfl) h]
        exact List.pairwise_singleton ..
      · rw [Small.listed_of_logFrom (.inr rfl) h]
        exact List.pairwise_singleton ..
    have hlisted : ∀ run ∈ [(Small.logFrom Small.refused, Small.eventsFrom Small.refused)],
        ∀ claims, listing .persistentVolumeClaim (.ok claims) ∈ run.1 → ∃ c ∈ claims,
          c.metadata.uid = some "1" ∧ c.metadata.resourceVersion = some "7" := by
      refine List.forall_mem_singleton.2 fun claims h => ?_
      rw [Small.listed_of_logFrom (.inr rfl) h]
      exact ⟨Small.selectingClaim, by simp, rfl, rfl⟩
    obtain ⟨-, hnone⟩ := hpasses {} Small.refused [] _ _ _ _ _ _ _ "1" "7" Small.passes_selecting hlog rfl rfl
      rfl hown hlisted
    exact hnone _ (List.mem_singleton.2 rfl)

/-- A failed claim may change how one of its uid is handled after it, for it is parked with it. -/
theorem not_served_alike_after_failure :
    ¬∀ (o : Options) (classes : List String) (claim : PersistentVolumeClaim)
        (following : List PersistentVolumeClaim) (p q : Parked) (t : List Event) (request : ProvisionRequest)
        (e : Error), Path (serveClaim o classes claim) p t () q →
      .called (.provision request) (.error e) ∈ t →
      ∀ u cancelled, (∃ q', Path (reconcileClaims o classes following) p u cancelled q') ↔
        ∃ q', Path (reconcileClaims o classes following) q u cancelled q' := by
  intro h
  have hfirst : Path (reconcileClaims {} ["local"] [Small.selectingClaim]) {}
      (.polled false :: Small.visitEvents) false Small.refused :=
    World.path_run (Small.selectingServer.through (Task.perform {})) _ ()
  obtain ⟨q, hsecond⟩ := (h {} ["local"] Small.selectingClaim [Small.selectingClaim] {} Small.refused
    Small.visitEvents Small.selectingRequest Small.refusal Small.path_visitEvents Small.mem_visitEvents
    _ _).1 ⟨_, hfirst⟩
  obtain ⟨visits, rest, hitems, hvisits, -, hevents⟩ := path_untilCancelled hsecond
  have hsame : ∀ v ∈ visits, v.item.metadata.uid = some "1" → v.item.metadata.resourceVersion = some "7" := by
    intro v hv _
    have hmem : v.item ∈ [Small.selectingClaim] := by
      rw [hitems]
      exact List.mem_append_left _ (List.mem_map_of_mem hv)
    rw [List.mem_singleton.1 hmem]
    rfl
  have hparked : Small.refused.versions.get? "1" = some "7" := rfl
  obtain ⟨-, hnone⟩ := visits_of_parked hvisits hparked hsame
  have hmem : (Small.selectingRequest, .error Small.refusal) ∈ provisions (eventsIn visits) := by
    have hprovision := mem_provisions_iff.2 (List.mem_cons_of_mem (.polled false) Small.mem_visitEvents)
    rw [hevents] at hprovision
    simpa [ending] using hprovision
  exact hnone _ _ hmem rfl

end NodeVolumes.Controller
