import NodeVolumes.Proofs.Device.Release
import NodeVolumes.Proofs.Isolation

/-! # What is left of a claim

A call that binds a device makes sure of a claim, looks at it and gives it up when it finds no device. It may
be cancelled in every wait, and every call that it makes may fail on its way. What becomes of the claim can
still be told from the result.

* `path_awaitDevice`: the looks at a claim only read it, until it is given up.
* `BindShape`: the ways in which a call that binds a device can go.
* `Leaves`: what such a call leaves behind; `leaves_of_bind` says that it always does. -/

namespace NodeVolumes

open Cluster (Call Event Failed FailsBy Memory)
open Cluster.Memory (NamesReads Plays SparesClaim Uninformative callWorld)
open HostPath (SparesPods composable_sparesPods sparesPods_singleton)
open Program.Event (calls waits)
open Attempt (Path)

/-! ### Injected failures -/

/-- A call fails with an error of the server or an internal one. -/
def Cluster.Injected : Call → Error → Prop :=
  fun _ e => (∃ cause, e = .api cause) ∨ ∃ detail, e = .internal detail

open Cluster (Injected)

theorem Cluster.uninformative_injected : Uninformative Injected := by
  rintro c e (⟨cause, rfl⟩ | ⟨detail, rfl⟩) <;> exact ⟨rfl, rfl⟩

/-- Tells the error of a claim that found no device. -/
def Error.lacksDevice : Error → Bool
  | noBlockDeviceFound .. => true
  | _ => false

theorem Error.lacksDevice_of_injected {c : Call} {e : Error} (h : Injected c e) : e.lacksDevice = false := by
  rcases h with ⟨cause, rfl⟩ | ⟨detail, rfl⟩ <;> rfl

theorem Cluster.Memory.Answers.lacksDevice_of_getClaim {m m' : Memory} {ns name : String} {e : Error}
    (h : m.Answers Injected (.getClaim ns name) (.error e) m') : e.lacksDevice = false := by
  generalize hr : (Except.error e : Cluster.Reply (.getClaim ns name)) = r at h
  cases h with
  | given =>
    have hmissing : e.isNotFound = true := isNotFound_of_getClaim hr.symm
    cases e with
    | noBlockDeviceFound claim volume => cases hmissing
    | _ => rfl
  | failed hfault =>
    cases hr
    exact Error.lacksDevice_of_injected hfault

theorem Cluster.Memory.Plays.namedAt {faults : Call → Error → Prop} {m m' : Memory} {t : List Event}
    {key : ObjectKey} (h : Plays faults m t m') (hm : m.NamedAt key) : m'.NamedAt key := by
  induction h with
  | done => exact hm
  | next he _ ih => exact ih (he.namedAt hm).2

theorem Cluster.Call.Seeks.claimKey?_eq {key key' : ObjectKey} {c : Call} (h : c.Seeks key)
    (hkey : c.claimKey? = some key') : key' = key := by
  cases h with
  | read =>
    cases hkey
    rfl
  | create hname _ =>
    cases hkey
    exact congrArg (ObjectKey.mk key.ns) hname
  | other hother => exact absurd hkey (Cluster.Call.claimKey?_ne_of_isOnClaim hother)

namespace Device

variable {settings : Settings} {request : DeviceRequest} {claim volume : String} {t : List Event}

/-! ### The ways to bind a device -/

theorem path_abandon {r : Except Error Unit} (h : Path (abandon settings claim volume) t r) :
    r = .ok () ∧ ∃ warning released outcome after, t = .told warning :: (released ++ after) ∧
      Path (release settings claim) released outcome ∧ calls after = [] ∧ waits after = [] := by
  unfold abandon at h
  obtain ⟨u, rfl, h₁⟩ := Attempt.path_warn_bind_iff.1 h
  obtain ⟨released, v, outcome, rfl, hrelease, h₂⟩ := Attempt.path_outcome_bind_iff.1 h₁
  cases outcome with
  | ok a =>
    obtain ⟨rfl, rfl⟩ := Attempt.path_pure_iff.1 h₂
    exact ⟨rfl, _, released, _, [], rfl, hrelease, rfl, rfl⟩
  | error e =>
    obtain ⟨rfl, rfl⟩ := Attempt.path_warn_iff.1 h₂
    exact ⟨rfl, _, released, _, [_], rfl, hrelease, rfl, rfl⟩

/-- The ways in which a claim is given up: it has been sought, is released, and nothing is done after that. -/
structure GivesUp (settings : Settings) (claim : String) (t released : List Event) : Prop where
  split : ∃ before after, t = before ++ (released ++ after) ∧
    (∀ c ∈ calls before, c.Seeks ⟨settings.ns, claim⟩) ∧ calls after = []
  release : ∃ outcome, Path (release settings claim) released outcome

theorem GivesUp.append {released u : List Event} (h : GivesUp settings claim t released)
    (hu : ∀ c ∈ calls u, c.Seeks ⟨settings.ns, claim⟩) : GivesUp settings claim (u ++ t) released := by
  obtain ⟨⟨before, after, rfl, hbefore, hafter⟩, hrelease⟩ := h
  refine ⟨⟨u ++ before, after, (List.append_assoc ..).symm, ?_, hafter⟩, hrelease⟩
  rw [Program.Event.calls_append, List.forall_mem_append]
  exact ⟨hu, hbefore⟩

/-- A claim is only looked at, or it is given up for want of a device. -/
theorem path_awaitDevice {left : Nat} {r : Except Error String}
    (h : Path (awaitDevice settings claim volume left) t r) :
    ((∀ c ∈ calls t, c.Seeks ⟨settings.ns, claim⟩) ∧ ∀ e, r = .error e → e.lacksDevice = false) ∨
      r = .error (.noBlockDeviceFound claim volume) ∧ ∃ released, GivesUp settings claim t released := by
  induction left generalizing t with
  | zero =>
    unfold awaitDevice at h
    rcases Attempt.path_bind_iff.1 h with ⟨e, habandon, -⟩ | ⟨u, v, _, rfl, habandon, hthrow⟩
    · cases (path_abandon habandon).1
    obtain ⟨-, warning, released, outcome, after, rfl, hrelease, hafter, -⟩ := path_abandon habandon
    obtain ⟨rfl, rfl⟩ := Attempt.path_throw_iff.1 hthrow
    refine .inr ⟨rfl, released, ⟨[.told warning], after, by simp, by simp, hafter⟩, outcome, hrelease⟩
  | succ left ih =>
    have hread : (Call.getClaim settings.ns claim).Seeks ⟨settings.ns, claim⟩ := .read
    rcases path_awaitDevice_succ h with ⟨e, reason, rfl, rfl⟩ | ⟨current, u, rfl, hlook⟩
    · refine .inl ⟨by simpa using hread, fun e he => ?_⟩
      cases he
      rfl
    rcases hlook with ⟨device, -, rfl, rfl⟩ | ⟨-, ⟨activity, rfl, rfl⟩ | ⟨v, rfl, hrest⟩⟩
    · refine .inl ⟨by simpa using hread, fun e he => ?_⟩
      cases he
    · refine .inl ⟨by simpa using hread, fun e he => ?_⟩
      cases he
      rfl
    · rcases ih hrest with ⟨hseeks, hr⟩ | ⟨rfl, released, hgives⟩
      · refine .inl ⟨?_, hr⟩
        intro c hc
        rcases List.mem_cons.1 hc with rfl | hc
        · exact hread
        · exact hseeks c hc
      · refine .inr ⟨rfl, released, ?_⟩
        have hlook : ∀ c ∈ calls ([.called (.getClaim settings.ns claim) (.ok current),
            .slept settings.claimPollMs false] : List Event), c.Seeks ⟨settings.ns, claim⟩ := by
          simpa using hread
        exact hgives.append hlook

theorem lacksDevice_of_ensure {m m' : Memory} {e : Error} (h : Path (ensure settings request) t (.error e))
    (hplay : Plays Injected m t m') : e.lacksDevice = false := by
  rw [ensure_eq] at h
  rcases Attempt.path_check_bind_iff.1 h with ⟨e', hcheck, -, he⟩ | ⟨_, -, h₁⟩
  · cases he
    unfold DeviceRequest.check at hcheck
    split at hcheck
    · cases hcheck
      rfl
    · cases hcheck
  obtain ⟨found, u, rfl, h₂⟩ := Attempt.path_reply_bind_iff.1 h₁
  split at h₂
  case h_1 => cases (Attempt.path_pure_iff.1 h₂).2
  case h_2 e' =>
    split at h₂
    case isTrue =>
      unfold make at h₂
      obtain ⟨made, v, rfl, h₃⟩ := Attempt.path_reply_bind_iff.1 h₂
      split at h₃
      · cases (Attempt.path_pure_iff.1 h₃).2
      · cases (Attempt.path_pure_iff.1 h₃).2
      · cases (Attempt.path_throw_iff.1 h₃).2
        rfl
    case isFalse hother =>
      obtain ⟨rfl, he⟩ := Attempt.path_throw_iff.1 h₂
      cases he
      exact hplay.answers.lacksDevice_of_getClaim

/-- The ways in which a call that binds a device can go: its claim is only sought, or it is made sure of and
then given up for want of a device. -/
inductive BindShape (settings : Settings) (request : DeviceRequest) :
    List Event → Except Error (String × BlockDevice) → Prop
  | sought {t : List Event} {r : Except Error (String × BlockDevice)} :
      (∀ c ∈ calls t, c.Seeks ⟨settings.ns, claimName request.volume⟩) →
      (∀ e, r = .error e → e.lacksDevice = false) → BindShape settings request t r
  | gaveUp {u v released : List Event} :
      Path (ensure settings request) u (.ok (claimName request.volume)) →
      GivesUp settings (claimName request.volume) v released →
      BindShape settings request (u ++ v)
        (.error (.noBlockDeviceFound (claimName request.volume) request.volume))

theorem bindShape_of_path {m m' : Memory} {r : Except Error (String × BlockDevice)}
    (h : Path (bind settings request) t r) (hplay : Plays Injected m t m') :
    BindShape settings request t r := by
  rcases path_bind h with ⟨e, hensure, rfl⟩ | ⟨u, v, rfl, hensure, hrest⟩
  · refine .sought (seeks_ensure _ _ hensure) fun e' he => ?_
    cases he
    exact lacksDevice_of_ensure hensure hplay
  have hfirst := seeks_ensure _ _ hensure
  rcases hrest with ⟨e, hawait, rfl⟩ | ⟨w, name, reply, rfl, hawait, hr⟩
  · rcases path_awaitDevice hawait with ⟨hlooks, he⟩ | ⟨he, released, hgives⟩
    · refine .sought ?_ fun e' he' => he e' (by cases he'; rfl)
      rw [Program.Event.calls_append, List.forall_mem_append]
      exact ⟨hfirst, hlooks⟩
    · cases he
      exact .gaveUp hensure hgives
  · rcases path_awaitDevice hawait with ⟨hlooks, -⟩ | ⟨he, -⟩
    · have hlast : (Call.getBlockDevice settings.ns name).Seeks ⟨settings.ns, claimName request.volume⟩ :=
        .other rfl
      refine .sought ?_ fun e' he' => ?_
      · rw [Program.Event.calls_append, Program.Event.calls_append, List.forall_mem_append,
          List.forall_mem_append]
        exact ⟨hfirst, hlooks, by simpa using hlast⟩
      · rcases hr with ⟨device, -, rfl⟩ | ⟨e, reason, -, rfl⟩
        · cases he'
        · cases he'
          rfl
    · cases he

/-! ### The claim afterwards -/

section
variable {faults : Call → Error → Prop} {m m' : Memory}

theorem spares_of_seeks {key : ObjectKey} (h : ∀ c ∈ calls t, c.Seeks key) : ∀ e ∈ t, SparesClaim key e := by
  intro e he
  cases e with
  | called c r => exact Memory.sparesClaim_of_seeks (h c (Program.Event.mem_calls_of_mem he)) r
  | _ => exact nofun

theorem GivesUp.goneUnlessFailed {released : List Event} (h : GivesUp settings claim t released)
    (hplay : Plays faults m t m') (hnamed : m.NamedAt ⟨settings.ns, claim⟩)
    (hpresent : m.claims.contains ⟨settings.ns, claim⟩ = true) :
    GoneUnlessFailed faults ⟨settings.ns, claim⟩ released m' := by
  obtain ⟨⟨before, after, rfl, hbefore, hafter⟩, outcome, hrelease⟩ := h
  obtain ⟨m₁, hfirst, hrest⟩ := hplay.of_append
  obtain ⟨m₂, hreleased, hlast⟩ := hrest.of_append
  obtain rfl := hlast.eq_of_calls hafter
  exact goneUnlessFailed_of_release hrelease hreleased (hfirst.namedAt hnamed)
    (hfirst.contains_of_spares (spares_of_seeks hbefore) hpresent)

theorem contains_of_created {key : ObjectKey} {made stored : BlockDeviceClaim}
    (hname : made.metadata.nameD = key.name)
    (h : m.Answers faults (.createClaim key.ns made) (.ok stored) m') : m'.claims.contains key = true := by
  generalize hr : (Except.ok stored : Cluster.Reply (.createClaim key.ns made)) = r at h
  cases h with
  | given => exact Memory.contains_createClaim m hname
  | failed _ => cases hr

theorem contains_of_seeks {key : ObjectKey} (hplay : Plays faults m t m')
    (hseeks : ∀ c ∈ calls t, c.Seeks key)
    (h : m.claims.contains key = true ∨
      ∃ made stored, .called (.createClaim key.ns made) (.ok stored) ∈ t) :
    m'.claims.contains key = true := by
  rcases h with hpresent | ⟨made, stored, hmade⟩
  · exact hplay.contains_of_spares (spares_of_seeks hseeks) hpresent
  · have hname : made.metadata.nameD = key.name := by
      have hkey := (hseeks _ (Program.Event.mem_calls_of_mem hmade)).claimKey?_eq rfl
      exact congrArg ObjectKey.name hkey
    exact hplay.contains_of_mem (spares_of_seeks hseeks) hmade fun he => contains_of_created hname he.answers

/-- What a call that binds a device leaves behind, by its result. -/
structure Leaves (settings : Settings) (request : DeviceRequest) (m m' : Memory) (t : List Event)
    (r : Except Error (String × BlockDevice)) : Prop where
  /-- When it succeeds, the claim is there and bound to the device that is given. -/
  bound : ∀ claim device, r = .ok (claim, device) → claim = claimName request.volume ∧
    ∃ current name, m'.claims.get? ⟨settings.ns, claim⟩ = some current ∧
      current.boundDevice? = some name ∧ m'.devices.get? ⟨settings.ns, name⟩ = some device
  /-- When no device is found, the claim is gone, unless a call of its release has failed. -/
  gaveUp : ∀ e, r = .error e → e.lacksDevice = true →
    ∃ released, GivesUp settings (claimName request.volume) t released ∧
      GoneUnlessFailed Injected ⟨settings.ns, claimName request.volume⟩ released m'
  /-- When it fails in another way, the claim is neither written nor deleted, and it is there if it was there
  before or has been created. -/
  failed : ∀ e, r = .error e → e.lacksDevice = false →
    (∀ c ∈ calls t, (∀ ns written, c ≠ .replaceClaim ns written) ∧ ∀ ns name, c ≠ .deleteClaim ns name) ∧
      (m.claims.contains ⟨settings.ns, claimName request.volume⟩ = true ∨
          (∃ made stored, .called (.createClaim settings.ns made) (.ok stored) ∈ t) →
        m'.claims.contains ⟨settings.ns, claimName request.volume⟩ = true)
  /-- No call is on a pod or on another claim. -/
  only : ∀ c ∈ calls t, c.isOnPod = false ∧
    ∀ key, c.claimKey? = some key → key = ⟨settings.ns, claimName request.volume⟩
  pods : m'.pods = m.pods
  others : ∀ key, key ≠ ⟨settings.ns, claimName request.volume⟩ → m'.claims.get? key = m.claims.get? key

theorem only_of_bind {r : Except Error (String × BlockDevice)} (h : Path (bind settings request) t r)
    (hreads : NamesReads ⟨settings.ns, claimName request.volume⟩ t) :
    ∀ c ∈ calls t, c.isOnPod = false ∧
      ∀ key, c.claimKey? = some key → key = ⟨settings.ns, claimName request.volume⟩ := by
  have hpods : (bind settings request).Always SparesPods :=
    always_bind composable_sparesPods (sparesPods_singleton rfl) (sparesPods_singleton rfl)
      (always_release composable_sparesPods (sparesPods_singleton rfl) (fun _ => sparesPods_singleton rfl)
        (sparesPods_singleton rfl))
      fun _ => sparesPods_singleton rfl
  have hstays : (bind settings request).Always (StaysOn ⟨settings.ns, claimName request.volume⟩) := by
    refine always_bind (composable_staysOn _) ?_ ?_ (staysOn_release _) ?_
    · exact staysOn_singleton rfl fun _ hkey => by cases hkey; rfl
    · exact staysOn_singleton rfl fun _ hkey => by cases hkey; rfl
    · exact fun _ => staysOn_of_claimKey?_eq_none rfl rfl
  exact fun c hc => ⟨hpods t r h c hc, (hstays t r h hreads c hc).2⟩

theorem claim_of_bind {claim : String} {device : BlockDevice}
    (h : Path (bind settings request) t (.ok (claim, device))) (hplay : Plays faults m t m') :
    claim = claimName request.volume ∧
      ∃ current name, m'.claims.get? ⟨settings.ns, claim⟩ = some current ∧
        current.boundDevice? = some name ∧ m'.devices.get? ⟨settings.ns, name⟩ = some device := by
  obtain ⟨rfl, u, current, name, rfl, hdevice⟩ := bind_eq_ok h
  obtain ⟨m₁, -, hrest⟩ := hplay.of_append
  cases hrest with
  | next hread hlast =>
    obtain ⟨-, -, -, hcurrent⟩ := hread.answers.claims_of_getClaim
    refine ⟨rfl, current, name, ?_, hdevice, ?_⟩
    · rw [hlast.run.claims_of_calls (by simp [Call.isOnClaim])]
      exact hcurrent
    · rw [hlast.sameSetup.devices]
      exact hlast.answers.get?_devices_of_getBlockDevice

/-- The result of a call that binds a device tells what it leaves of its claim.

On a cluster in memory, whichever calls fail on their way and whenever the call is cancelled: after a success
the claim is bound to the device that is given; when no device is found the claim is gone, unless its release
has failed; and after any other error it has neither been written nor deleted, and is still there if it was
there before or has been created. No pod and no other claim is written. -/
theorem leaves_of_bind (hm : m.Made) {r : Except Error (String × BlockDevice)}
    (h : Path (bind settings request) t r) (hplay : Plays Injected m t m') :
    Leaves settings request m m' t r := by
  have hnamed := hm.namedAt ⟨settings.ns, claimName request.volume⟩
  have honly := only_of_bind h (hplay.run.namesReads hnamed)
  refine ⟨?_, ?_, ?_, honly, ?_, ?_⟩
  · rintro claim device rfl
    exact claim_of_bind h hplay
  · rintro e rfl hlacks
    cases bindShape_of_path h hplay with
    | sought _ hr =>
      rw [hr e rfl] at hlacks
      cases hlacks
    | @gaveUp u v released hensure hgives =>
      obtain ⟨m₁, hfirst, hrest⟩ := hplay.of_append
      have hpresent := (deviceAfter_of_ensure Cluster.uninformative_injected hensure hfirst).2.1
      refine ⟨released, hgives.append (seeks_ensure _ _ hensure), ?_⟩
      exact hgives.goneUnlessFailed hrest (hfirst.namedAt hnamed) hpresent
  · rintro e rfl hlacks
    cases bindShape_of_path h hplay with
    | gaveUp _ _ => cases hlacks
    | sought hseeks _ =>
      refine ⟨fun c hc => ?_, contains_of_seeks hplay hseeks⟩
      cases hseeks c hc with
      | read => simp
      | create _ _ => simp
      | other hother => constructor <;> rintro _ _ rfl <;> cases hother
  · exact hplay.run.pods_of_calls fun c hc => (honly c hc).1
  · intro key hne
    exact hplay.run.get?_claims_of_ne fun c hc hkey => hne ((honly c hc).2 key hkey)

end

end Device

/-! ### A claim that is left behind -/

namespace Small

/-- A wish for a device on the first node. -/
def diskRequest : Device.DeviceRequest where
  volume := "pvc-1"
  hostname := "node-1"
  nodeAffinity := KeyMap.singleton hostnameLabel "node-1"
  selectors := none
  capacity := some "1Gi"
  raw := false

/-- A call that binds a device and looks for it once. -/
def bindDisk : Engine (Except Error (String × BlockDevice)) := (Device.bind hastySettings diskRequest).run

theorem injected_failingDelete (c : Call) (e : Error) (h : failingDelete c = some e) : Injected c e := by
  unfold failingDelete at h
  split at h
  · cases h
    exact .inl ⟨_, rfl⟩
  · cases h

end Small

/-- No device is found, and the claim cannot be deleted: it is left behind. -/
theorem leaves_of_bind_failing :
    let events := (callWorld Small.failingDelete).trace Small.bindDisk ({}, none)
    let after := (callWorld Small.failingDelete).run Small.bindDisk ({}, none)
    after.1 = .error (.noBlockDeviceFound "bdc-pvc-1" "pvc-1") ∧
      after.2.1.claims.contains ⟨"openebs", "bdc-pvc-1"⟩ = true ∧
      Device.Leaves Small.hastySettings Small.diskRequest {} after.2.1 events after.1 := by
  intro events after
  refine ⟨by decide +kernel, by decide +kernel, ?_⟩
  have hplay := Memory.plays_callWorld Small.failingDelete Small.bindDisk {} none
  exact Device.leaves_of_bind .empty (World.path_run _ Small.bindDisk _) (hplay.mono Small.injected_failingDelete)

end NodeVolumes
