import NodeVolumes.Proofs.Cluster.Play
import NodeVolumes.Proofs.Device.Adoption

/-! # Finalizers of device claims

A claim is created with the finalizer, and loses it just before it is deleted. When this deletion fails, the
claim stays without its finalizer, and a later call takes it over like any other claim of its name.

* `Run.finalizer_origin`: a claim has the finalizer until it is written without it.
* `disposes_of_path`: a provision call deletes a claim right after it has written it without the finalizer.
* `stored_claim_finalizer`: the claim of a volume on a device has the finalizer, unless a deletion of it has
  failed since it was created. -/

namespace NodeVolumes

open Cluster (Call Event Memory)
open Cluster.Memory (RewritesClaim TouchesClaim callWorld)
open Device (claimName)
open Program.Event (calls)

/-! ### Marked claims -/

namespace BlockDeviceClaim

theorem hasFinalizer_of_finalizers_eq {c c' : BlockDeviceClaim} {finalizer : String}
    (h : c'.metadata.finalizers = c.metadata.finalizers) :
    c'.hasFinalizer finalizer = c.hasFinalizer finalizer := by
  unfold hasFinalizer
  rw [h]

theorem hasFinalizer_removeFinalizer (c : BlockDeviceClaim) (finalizer : String) :
    (c.removeFinalizer finalizer).hasFinalizer finalizer = false := by
  unfold hasFinalizer removeFinalizer
  cases c.metadata.finalizers with
  | none => rfl
  | some fs => simp

theorem hasFinalizer_toClaim (r : Device.DeviceRequest) (ns : String) :
    (r.toClaim ns).hasFinalizer localFinalizer = true := by
  simp [hasFinalizer, Device.DeviceRequest.toClaim]

end BlockDeviceClaim

/-- Claims are created with a finalizer and written without it. -/
def Cluster.Call.Marks (finalizer : String) : Call → Prop
  | .createClaim _ claim => claim.hasFinalizer finalizer = true
  | .replaceClaim _ claim => claim.hasFinalizer finalizer = false
  | _ => True

theorem Cluster.Call.marks_of_isOnPod {finalizer : String} {c : Call} (h : c.isOnPod = true) :
    c.Marks finalizer := by
  cases c with
  | createClaim ns claim => cases h
  | replaceClaim ns claim => cases h
  | _ => trivial

namespace Cluster.Memory

variable {faults : Call → Error → Prop} {m m' : Memory} {t : List Event} {key : ObjectKey}
  {finalizer : String}

theorem ClaimStep.hasFinalizer_iff {before : Option BlockDeviceClaim} {c : Call} {r : Reply c}
    {new : BlockDeviceClaim} (h : ClaimStep key before (.called c r) (some new))
    (hc : c.Marks finalizer) :
    (∃ old, before = some old ∧ ¬TouchesClaim key (.called c r) ∧
      (new.hasFinalizer finalizer = true ↔
        old.hasFinalizer finalizer = true ∧ ¬RewritesClaim key (.called c r))) ∨
      ∃ made, (.called c r : Event) = .called (.createClaim key.ns made) (.ok new) ∧
        made.metadata.nameD = key.name ∧ new.hasFinalizer finalizer = true := by
  cases h with
  | kept htouch hwrite => exact .inl ⟨new, rfl, htouch, by simp [hwrite]⟩
  | created hname _ hfinalizers =>
    refine .inr ⟨_, rfl, hname, ?_⟩
    rw [BlockDeviceClaim.hasFinalizer_of_finalizers_eq hfinalizers]
    exact hc
  | @read old _ _ hmetadata =>
    refine .inl ⟨old, rfl, not_succeeds_of_kind rfl, ?_⟩
    rw [BlockDeviceClaim.hasFinalizer_of_finalizers_eq (congrArg Metadata.finalizers hmetadata)]
    exact ⟨fun h => ⟨h, not_succeeds_of_kind rfl⟩, And.left⟩
  | @replaced old _ hname =>
    refine .inl ⟨old, rfl, not_succeeds_of_kind rfl, ?_⟩
    rw [show new.hasFinalizer finalizer = false from hc]
    have hwrites : RewritesClaim key (.called (.replaceClaim key.ns new) (.ok new)) :=
      rewritesClaim_iff.2 ⟨new, new, rfl, hname⟩
    simp [hwrites]

/-- A claim has the finalizer if it was there with it and has not been written, or if it has been created
and has not been written since. -/
theorem Run.finalizer_origin (h : Run faults m t m') (ht : ∀ c ∈ calls t, c.Marks finalizer)
    {claim : BlockDeviceClaim} (hclaim : m'.claims.get? key = some claim) :
    (∃ old, m.claims.get? key = some old ∧ (∀ e ∈ t, ¬TouchesClaim key e) ∧
      (claim.hasFinalizer finalizer = true ↔
        old.hasFinalizer finalizer = true ∧ ∀ e ∈ t, ¬RewritesClaim key e)) ∨
    ∃ u made stored v, t = u ++ .called (.createClaim key.ns made) (.ok stored) :: v ∧
      made.metadata.nameD = key.name ∧ (∀ e ∈ v, ¬TouchesClaim key e) ∧
      (claim.hasFinalizer finalizer = true ↔ ∀ e ∈ v, ¬RewritesClaim key e) := by
  induction h with
  | done hdrift =>
    rw [hdrift.claims] at hclaim
    exact .inl ⟨claim, hclaim, by simp, by simp⟩
  | @called m m₁ m₂ m₃ c r t hdrift hanswer _ ih =>
    obtain ⟨hfirst, hrest⟩ := Program.Event.forall_mem_calls_cons.1 ht
    rcases ih hrest hclaim with ⟨old, hold, huntouched, hmark⟩ | ⟨u, made, stored, v, rfl, hmade⟩
    · have hstep := claimStep_of_answers key hanswer
      rw [hold] at hstep
      rcases hstep.hasFinalizer_iff (hfirst c rfl) with ⟨older, holder, htouch, hmark'⟩ |
        ⟨made, hmade, hname, hmark'⟩
      · rw [← hdrift.claims]
        refine .inl ⟨older, holder, List.forall_mem_cons.2 ⟨htouch, huntouched⟩, ?_⟩
        rw [hmark, hmark', List.forall_mem_cons, and_assoc]
      · refine .inr ⟨[], made, old, t, by rw [hmade]; rfl, hname, huntouched, ?_⟩
        rw [hmark, and_iff_right hmark']
    · exact .inr ⟨_ :: u, made, stored, v, rfl, hmade⟩
  | @silent m m' e t he _ ih =>
    obtain ⟨-, hrest⟩ := Program.Event.forall_mem_calls_cons.1 ht
    rcases ih hrest hclaim with ⟨old, hold, huntouched, hmark⟩ | ⟨u, made, stored, v, rfl, hmade⟩
    · have hkept : ¬RewritesClaim key e := not_succeeds_of_call?_eq_none he
      refine .inl ⟨old, hold,
        List.forall_mem_cons.2 ⟨not_succeeds_of_call?_eq_none he, huntouched⟩, ?_⟩
      rw [hmark, List.forall_mem_cons, and_iff_right hkept]
    · exact .inr ⟨_ :: u, made, stored, v, rfl, hmade⟩

end Cluster.Memory

/-! ### What provision calls do to the finalizer -/

section
variable {settings : Settings} {request : ProvisionRequest} {t u : List Event}
  {r : Except Error LocalVolume} {key : ObjectKey}

theorem marks_of_path (h : (provision settings request).Path t r) :
    ∀ c ∈ calls t, c.Marks localFinalizer := by
  have hP := Attempt.composable_calls (Call.Marks localFinalizer)
  have hsingle {c : Call} (hc : c.Marks localFinalizer) (reply : Cluster.Reply c) :
      ∀ d ∈ calls [(.called c reply : Event)], d.Marks localFinalizer :=
    Program.Event.forall_mem_calls_singleton (Call.Marks localFinalizer) hc reply
  refine always_provision hP (fun _ => hsingle trivial)
    (fun c reply hpod => hsingle (Call.marks_of_isOnPod hpod) reply) (fun plan => ?_) h
  apply Device.always_provision hP
  · exact hsingle trivial
  · exact fun affinity => hsingle (BlockDeviceClaim.hasFinalizer_toClaim _ _)
  · refine Device.always_release_of_read hP (hsingle trivial) (fun current reply => ?_) (hsingle trivial)
    have hread := hsingle (c := .getClaim settings.ns (claimName request.volume)) trivial (.ok current)
    have hwrite := hsingle (c := .replaceClaim settings.ns (current.removeFinalizer localFinalizer))
      (current.hasFinalizer_removeFinalizer localFinalizer) reply
    exact hP.append hread hwrite
  · exact fun _ => hsingle trivial

/-- When the claim under a key is written, it is deleted right after that. -/
def Disposes (key : ObjectKey) (t : List Event) : Prop :=
  ∀ pre e post, t = pre ++ e :: post → RewritesClaim key e →
    ∃ deleted rest, post = .called (.deleteClaim key.ns key.name) deleted :: rest

theorem composable_disposes (key : ObjectKey) : Attempt.Composable (Disposes key) where
  nil := by
    intro pre e post ht
    simp at ht
  append := by
    intro t u ht hu pre e post hsplit hwrites
    rcases Program.append_eq_append_cons hsplit with ⟨v, rfl, rfl⟩ | ⟨v, -, rfl⟩
    · obtain ⟨deleted, rest, rfl⟩ := ht pre e v rfl hwrites
      exact ⟨deleted, rest ++ u, rfl⟩
    · exact hu v e post rfl hwrites
  silent := by
    intro e he pre d post ht hwrites
    have hd : d ∈ [e] := by
      rw [ht]
      simp
    rw [List.mem_singleton.1 hd] at hwrites
    exact absurd hwrites (Memory.not_succeeds_of_call?_eq_none he)

theorem disposes_of_not_rewritesClaim (h : ∀ e ∈ t, ¬RewritesClaim key e) : Disposes key t := by
  intro pre e post ht hwrites
  exact absurd hwrites (h e (by rw [ht]; simp))

theorem disposes_singleton {c : Call} (hc : Cluster.Memory.replacesIn? c = none)
    (reply : Cluster.Reply c) : Disposes key [.called c reply] := by
  apply disposes_of_not_rewritesClaim
  intro e he
  rw [List.mem_singleton.1 he]
  exact Memory.not_succeeds_of_kind (by rw [hc]; rfl)

theorem disposes_release {claim : String} (h : settings.ns = key.ns → claim = key.name) :
    (Device.release settings claim).Always (Disposes key) := by
  refine Device.always_release_of_steps (composable_disposes key) (disposes_singleton rfl) ?_ ?_
    (disposes_singleton rfl)
  · intro current e
    apply disposes_of_not_rewritesClaim
    intro d hd
    rcases List.mem_cons.1 hd with rfl | hd
    · exact Memory.not_succeeds_of_kind rfl
    · rw [List.mem_singleton.1 hd]
      exact Memory.not_succeeds_error
  · intro current stored deleted pre e post hsplit hwrites
    -- only the second of the three events writes
    rcases pre with _ | ⟨_, _ | ⟨_, _ | ⟨_, pre⟩⟩⟩
    · cases hsplit
      exact absurd hwrites (Memory.not_succeeds_of_kind rfl)
    · cases hsplit
      have hns : settings.ns = key.ns := congrArg ObjectKey.ns (Option.some.inj hwrites.2)
      refine ⟨deleted, [], ?_⟩
      rw [hns, h hns]
    · cases hsplit
      exact absurd hwrites (Memory.not_succeeds_of_kind rfl)
    · simp at hsplit

/-- A provision call deletes the claim of its volume after it has written it. -/
theorem disposes_of_path {ns : String} (h : (provision settings request).Path t r) :
    Disposes ⟨ns, claimName request.volume⟩ t := by
  have hP := composable_disposes ⟨ns, claimName request.volume⟩
  refine always_provision hP (fun _ => disposes_singleton rfl)
    (fun c reply hpod => disposes_singleton (Memory.replacesIn?_of_isOnPod hpod) reply) (fun plan => ?_) h
  exact Device.always_provision hP (disposes_singleton rfl) (fun _ => disposes_singleton rfl)
    (disposes_release fun _ => rfl) fun _ => disposes_singleton rfl

end

/-! ### Calls in turn -/

theorem marks_eventsOf {turns : List Turn} {volume : String}
    (h : ∀ turn ∈ turns, turn.Provisions volume) : ∀ c ∈ calls (eventsOf turns), c.Marks localFinalizer := by
  intro c hc
  obtain ⟨reply, hmem⟩ := Program.Event.exists_mem_of_mem_calls hc
  obtain ⟨turn, hturn, hmem⟩ := List.mem_flatMap.1 hmem
  obtain ⟨settings, call, events, result, path⟩ := turn
  obtain ⟨request, rfl, -⟩ := h _ hturn
  exact marks_of_path path c (Program.Event.mem_calls_of_mem hmem)

theorem disposes_eventsOf {turns : List Turn} {volume : String}
    (h : ∀ turn ∈ turns, turn.Provisions volume) (ns : String) :
    Disposes ⟨ns, claimName volume⟩ (eventsOf turns) := by
  induction turns with
  | nil => exact (composable_disposes _).nil
  | cons turn turns ih =>
    rw [List.forall_mem_cons] at h
    obtain ⟨settings, call, events, result, path⟩ := turn
    obtain ⟨⟨request, rfl, rfl⟩, hrest⟩ := h
    exact (composable_disposes _).append (disposes_of_path path) (ih hrest)

/-- A half-done release: the claim under a key is written, and the deletion that follows fails. -/
def HalfReleased (key : ObjectKey) (t : List Event) : Prop :=
  ∃ u written stored e v, t = u ++ .called (.replaceClaim key.ns written) (.ok stored) ::
    .called (.deleteClaim key.ns key.name) (.error e) :: v ∧ written.metadata.nameD = key.name

/-- Where writes are followed by deletions and nothing is deleted, every write belongs to a half-done
release. -/
theorem halfReleased_iff {t : List Event} {key : ObjectKey} (ht : Disposes key t)
    (huntouched : ∀ e ∈ t, ¬TouchesClaim key e) :
    HalfReleased key t ↔ ∃ e ∈ t, RewritesClaim key e := by
  constructor
  · rintro ⟨u, written, stored, e, v, rfl, hname⟩
    exact ⟨_, by simp, Memory.rewritesClaim_iff.2 ⟨written, stored, rfl, hname⟩⟩
  · rintro ⟨e, he, hwrites⟩
    obtain ⟨u, v, rfl⟩ := List.append_of_mem he
    obtain ⟨deleted, rest, rfl⟩ := ht u e v rfl hwrites
    obtain ⟨written, stored, rfl, hname⟩ := Memory.rewritesClaim_iff.1 hwrites
    cases deleted with
    | error failure => exact ⟨u, written, stored, failure, rest, rfl, hname⟩
    | ok a =>
      have hmem : .called (.deleteClaim key.ns key.name) (.ok a) ∈
          u ++ .called (.replaceClaim key.ns written) (.ok stored) ::
            .called (.deleteClaim key.ns key.name) (.ok a) :: rest := by simp
      exact absurd ⟨rfl, rfl⟩ (huntouched _ hmem)

/-- The finalizer of the claim of a volume on a device.

Calls that provision one volume follow each other on a cluster in memory that starts without a claim for it,
where any call may fail or be cancelled and everything but pods and claims may change meanwhile. When a
volume on a device is made in the end, there is a claim for it, and since this claim has been created nobody
has deleted it. It carries the finalizer unless a release has been left half-done since then; it does so for
certain when no deletion of it has failed. -/
theorem stored_claim_finalizer {faults : Call → Error → Prop} {m₀ m₁ m₂ : Memory} {volume : String}
    {earlier : List Turn} (hearlier : ∀ turn ∈ earlier, turn.Provisions volume) {settings : Settings}
    (hstart : m₀.claims.get? ⟨settings.ns, claimName volume⟩ = none)
    (hbefore : Memory.Run faults m₀ (eventsOf earlier) m₁) {request : ProvisionRequest}
    (hvolume : request.volume = volume) {t : List Event} {made : LocalVolume}
    (hpath : (provision settings request).Path t (.ok made)) (hdevice : made.backing.kind = .device)
    (hrun : Memory.Run faults m₁ t m₂) :
    ∃ claim, m₂.claims.get? ⟨settings.ns, claimName volume⟩ = some claim ∧
      (∃ u asked stored v, eventsOf earlier ++ t =
          u ++ .called (.createClaim settings.ns asked) (.ok stored) :: v ∧
        asked.metadata.nameD = claimName volume ∧
        (∀ e ∈ v, ¬TouchesClaim ⟨settings.ns, claimName volume⟩ e) ∧
        (claim.hasFinalizer localFinalizer = true ↔ ¬HalfReleased ⟨settings.ns, claimName volume⟩ v)) ∧
      ((∀ e, .called (.deleteClaim settings.ns (claimName volume)) (.error e) ∉ eventsOf earlier ++ t) →
        claim.hasFinalizer localFinalizer = true) := by
  subst hvolume
  have hmarks : ∀ c ∈ calls (eventsOf earlier ++ t), c.Marks localFinalizer := by
    intro c hc
    rw [Program.Event.calls_append, List.mem_append] at hc
    rcases hc with hc | hc
    · exact marks_eventsOf hearlier c hc
    · exact marks_of_path hpath c hc
  have hdisposes : Disposes ⟨settings.ns, claimName request.volume⟩ (eventsOf earlier ++ t) :=
    (composable_disposes _).append (disposes_eventsOf hearlier settings.ns) (disposes_of_path hpath)
  obtain ⟨claim, hclaim⟩ := exists_claim_of_path hpath hdevice hrun
  refine ⟨claim, hclaim, ?_⟩
  rcases (hbefore.append hrun).finalizer_origin hmarks hclaim with
    ⟨old, hold, -⟩ | ⟨u, asked, stored, v, hsplit, hname, huntouched, hmark⟩
  · rw [hstart] at hold
    cases hold
  have hrest : Disposes ⟨settings.ns, claimName request.volume⟩ v := by
    rintro pre e post rfl
    refine hdisposes (u ++ .called (.createClaim settings.ns asked) (.ok stored) :: pre) e post ?_
    rw [hsplit, List.append_assoc]
    rfl
  have hiff : claim.hasFinalizer localFinalizer = true ↔
      ¬HalfReleased ⟨settings.ns, claimName request.volume⟩ v := by
    rw [hmark, halfReleased_iff hrest huntouched]
    simp
  refine ⟨⟨u, asked, stored, v, hsplit, hname, huntouched, hiff⟩, fun hdeletes => hiff.2 ?_⟩
  rintro ⟨x, written, replaced, e, y, rfl, -⟩
  exact hdeletes e (by rw [hsplit]; simp)

/-! ### A release that is left half-done -/

namespace Small

/-- Settings under which a device is looked for once. -/
def hastySettings : Settings := { settings with claimRetryCount := 1 }

/-- The deletion of a claim fails at the server. -/
def failingDelete : Call → Option Error
  | .deleteClaim .. => some (.api (.reported ⟨500, "boom", "InternalError"⟩))
  | _ => none

/-- The failures that happen then. -/
def deleteFaults : Call → Error → Prop := fun c e => failingDelete c = some e

/-- A provision call for the first node under these settings. -/
def hastyProvision : Engine (Except Error LocalVolume) := provision hastySettings (request "node-1")

/-- The first call finds no device, and drops the finalizer of its claim, but cannot delete it. -/
def halfDoneTurn : Turn where
  settings := hastySettings
  call := .provision (request "node-1")
  events := (callWorld failingDelete).trace hastyProvision (deviceCluster, none)
  result := ((callWorld failingDelete).run hastyProvision (deviceCluster, none)).1
  path := World.path_run _ _ _

/-- After the first call, the claim that is left behind gets a device. -/
def laterCluster : Memory :=
  (((callWorld failingDelete).run hastyProvision (deviceCluster, none)).2.1.bindAfter "bdc-pvc-1"
    ⟨"disk", 1⟩).addDevice "openebs"
      { metadata := { name := some "disk" }, spec := { path := "/dev/sdb" } }

/-- What happens in the second call. -/
def laterEvents : List Event := (callWorld failingDelete).trace hastyProvision (laterCluster, none)

/-- The cluster after both calls. -/
def unmarkedCluster : Memory := ((callWorld failingDelete).run hastyProvision (laterCluster, none)).2.1

/-- The volume of the second call. -/
def unmarkedVolume : LocalVolume where
  name := "pvc-1"
  backing := .device "/dev/sdb" none "bdc-pvc-1"
  nodeAffinity := KeyMap.singleton hostnameLabel "node-1"
  capacity := some "1Gi"
  accessModes := []
  reclaimPolicy := deletePolicy
  volumeMode := filesystemMode
  storageClass := some "local"

theorem provisions_halfDoneTurn : ∀ turn ∈ [halfDoneTurn], turn.Provisions "pvc-1" := by
  intro turn hturn
  rw [List.mem_singleton.1 hturn]
  exact ⟨request "node-1", rfl, rfl⟩

theorem claims_hastySettings :
    deviceCluster.claims.get? ⟨hastySettings.ns, claimName "pvc-1"⟩ = none := by decide +kernel

theorem run_halfDoneTurn : Memory.Run deleteFaults deviceCluster (eventsOf [halfDoneTurn]) laterCluster := by
  have hplay := (Memory.plays_callWorld failingDelete hastyProvision deviceCluster none).run
  have hdrift := (Memory.drifts_bindAfter
    ((callWorld failingDelete).run hastyProvision (deviceCluster, none)).2.1 "bdc-pvc-1" ⟨"disk", 1⟩).trans
    (Memory.drifts_addDevice _ "openebs"
      { metadata := { name := some "disk" }, spec := { path := "/dev/sdb" } })
  exact hplay.append (.done hdrift)

theorem path_laterEvents : hastyProvision.Path laterEvents (.ok unmarkedVolume) := by
  have hresult : ((callWorld failingDelete).run hastyProvision (laterCluster, none)).1 =
      .ok unmarkedVolume := by decide +kernel
  exact World.path_of_run hresult

theorem run_laterEvents : Memory.Run deleteFaults laterCluster laterEvents unmarkedCluster :=
  (Memory.plays_callWorld failingDelete hastyProvision laterCluster none).run

theorem claim_unmarkedCluster :
    ∃ claim, unmarkedCluster.claims.get? ⟨hastySettings.ns, claimName "pvc-1"⟩ = some claim ∧
      claim.hasFinalizer localFinalizer = false := by
  have hmark : (unmarkedCluster.claims.get? ⟨hastySettings.ns, claimName "pvc-1"⟩).map
      (·.hasFinalizer localFinalizer) = some false := by decide +kernel
  exact Option.map_eq_some_iff.1 hmark

end Small

/-- In the second call there is a claim, which is older than a release that has been left half-done. -/
theorem stored_claim_finalizer_small :
    ∃ u asked stored v, eventsOf [Small.halfDoneTurn] ++ Small.laterEvents =
        u ++ .called (.createClaim "openebs" asked) (.ok stored) :: v ∧
      HalfReleased ⟨"openebs", "bdc-pvc-1"⟩ v := by
  obtain ⟨claim, hclaim, ⟨u, asked, stored, v, hsplit, -, -, hmark⟩, -⟩ :=
    stored_claim_finalizer Small.provisions_halfDoneTurn Small.claims_hastySettings Small.run_halfDoneTurn
      rfl Small.path_laterEvents rfl Small.run_laterEvents
  refine ⟨u, asked, stored, v, hsplit, ?_⟩
  obtain ⟨found, hfound, hunmarked⟩ := Small.claim_unmarkedCluster
  obtain rfl : claim = found := Option.some.inj (hclaim.symm.trans hfound)
  by_contra hnot
  rw [hmark.2 hnot] at hunmarked
  cases hunmarked

/-- A volume on a device may be made with a claim that has no finalizer. -/
theorem not_claim_carries_finalizer :
    ¬∀ (faults : Call → Error → Prop) (m₀ m₁ m₂ : Memory) (volume : String) (earlier : List Turn)
        (settings : Settings) (request : ProvisionRequest) (t : List Event) (made : LocalVolume)
        (claim : BlockDeviceClaim),
      (∀ turn ∈ earlier, turn.Provisions volume) → request.volume = volume →
      m₀.claims.get? ⟨settings.ns, claimName volume⟩ = none →
      Memory.Run faults m₀ (eventsOf earlier) m₁ → Memory.Run faults m₁ t m₂ →
      (provision settings request).Path t (.ok made) → made.backing.kind = .device →
      m₂.claims.get? ⟨settings.ns, claimName volume⟩ = some claim →
      claim.hasFinalizer localFinalizer = true := by
  intro h
  obtain ⟨claim, hclaim, hunmarked⟩ := Small.claim_unmarkedCluster
  have hmarked : claim.hasFinalizer localFinalizer = true :=
    h Small.deleteFaults Small.deviceCluster Small.laterCluster Small.unmarkedCluster "pvc-1"
      [Small.halfDoneTurn] Small.hastySettings (Small.request "node-1") Small.laterEvents
      Small.unmarkedVolume claim Small.provisions_halfDoneTurn rfl Small.claims_hastySettings
      Small.run_halfDoneTurn Small.run_laterEvents Small.path_laterEvents rfl hclaim
  rw [hunmarked] at hmarked
  cases hmarked

end NodeVolumes
