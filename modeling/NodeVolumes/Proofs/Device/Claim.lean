import NodeVolumes.Device.Provision
import NodeVolumes.Proofs.Cluster.Claims

/-! # Runs of device programs

What the programs for device claims do on all their paths, call by call.

* `ReleaseShape`: the ways in which a release can go.
* `always_ensure` to `always_provision`: a property of events holds on all paths of a program as soon as
  it holds of the calls that the program makes.
* `bind_eq_ok`: binding succeeds when a read finds the claim bound, and nothing is written after it. -/

namespace NodeVolumes.Device

open Cluster (Call Event Reply)
open Program.Event (calls)
open Attempt (Path Always Composable)

variable {P : List Event → Prop} {settings : Settings} {claim volume : String}
  {request : DeviceRequest}

/-! ### The parts of `ensure` and `release` -/

/-- Creates the claim for a request. -/
def make (settings : Settings) (request : DeviceRequest) : Attempt String := do
  match ← Attempt.reply (.createClaim settings.ns (request.toClaim settings.ns)) with
  | .ok _ => return claimName request.volume
  | .error (.resourceExists ..) => return claimName request.volume
  | .error e =>
    throw (.blockDeviceClaim (claimName request.volume) ("failed to create: " ++ e.message))

/-- Deletes a claim whose finalizer is gone. -/
def remove (settings : Settings) (claim : String) : Attempt Unit := do
  match ← Attempt.reply (.deleteClaim settings.ns claim) with
  | .ok () => return
  | .error e =>
    if e.isNotFound then return
    else throw (.blockDeviceClaim claim ("unable to delete: " ++ e.message))

/-- The error for a finalizer that cannot be dropped. -/
def finalizerError (claim : String) (e : Error) : Error :=
  .blockDeviceClaim claim ("unable to remove finalizer: " ++ e.message)

theorem ensure_eq : ensure settings request = (do
    Attempt.check request.check
    match ← Attempt.reply (.getClaim settings.ns (claimName request.volume)) with
    | .ok _ => return claimName request.volume
    | .error e => if e.isNotFound then make settings request else throw e) := by
  refine congrArg (_ >>= ·) (funext fun _ => congrArg (_ >>= ·) (funext fun found => ?_))
  cases found with
  | ok _ => rfl
  | error e =>
    cases h : e.isNotFound with
    | true =>
      simp only [h]
      rfl
    | false =>
      simp only [h]
      rfl

theorem release_eq : release settings claim = (do
    match ← Attempt.reply (.getClaim settings.ns claim) with
    | .error e => if e.isNotFound then return else throw e
    | .ok current =>
      if current.hasFinalizer localFinalizer then
        Attempt.callOr (.replaceClaim settings.ns (current.removeFinalizer localFinalizer))
          (finalizerError claim) >>= fun _ => remove settings claim
      else remove settings claim) := by
  refine congrArg (_ >>= ·) (funext fun found => ?_)
  cases found with
  | error e => rfl
  | ok current =>
    cases h : current.hasFinalizer localFinalizer with
    | true =>
      simp only [h]
      rfl
    | false =>
      simp only [h]
      rfl

/-- The volume on a bound device. -/
def volumeOn (request : ProvisionRequest) (plan : Plan) (nodeAffinity : TextMap)
    (bound : String × BlockDevice) : LocalVolume where
  name := request.volume
  backing := .device bound.2.spec.volumePath plan.config.fsType? bound.1
  nodeAffinity
  capacity := request.storage?
  accessModes := request.accessModes
  reclaimPolicy := plan.reclaimPolicy
  volumeMode := if request.isBlock then blockMode else filesystemMode
  storageClass := some plan.storageClass

theorem provision_eq {request : ProvisionRequest} {plan : Plan} :
    provision settings request plan = (do
      let affinity ← Attempt.check (request.affinityLabels plan.config.affinityLabels?)
      if request.hostname = "" then
        throw (.invalidRequest ("selected node for " ++ request.volume ++ " has no hostname label"))
      else do
        let bound ← bind settings (deviceRequest request plan.config affinity)
        return volumeOn request plan affinity bound) := by
  unfold provision
  refine congrArg (_ >>= ·) (funext fun affinity => ?_)
  by_cases h : request.hostname = ""
  · simp only [h, if_true]
    rfl
  · simp only [h, if_false]
    rfl

/-! ### Outcomes -/

theorem make_eq_ok {t : List Event} {name : String} (h : Path (make settings request) t (.ok name)) :
    name = claimName request.volume ∧
      ∃ made, t = [.called (.createClaim settings.ns (request.toClaim settings.ns)) made] ∧
        ∀ e, made = .error e → e.isExists = true := by
  unfold make at h
  obtain ⟨made, u, rfl, h'⟩ := Attempt.path_reply_bind_iff.1 h
  split at h'
  · obtain ⟨rfl, hname⟩ := Attempt.path_pure_iff.1 h'
    cases hname
    exact ⟨rfl, _, rfl, fun e he => by cases he⟩
  · obtain ⟨rfl, hname⟩ := Attempt.path_pure_iff.1 h'
    cases hname
    exact ⟨rfl, _, rfl, fun e he => by cases he; rfl⟩
  · cases (Attempt.path_throw_iff.1 h').2

/-- What a release gives when its deletion has been answered. -/
def removed (claim : String) : Except Error Unit → Except Error Unit
  | .ok () => .ok ()
  | .error e =>
    if e.isNotFound then .ok ()
    else .error (.blockDeviceClaim claim ("unable to delete: " ++ e.message))

theorem path_remove_iff {t : List Event} {r : Except Error Unit} :
    Path (remove settings claim) t r ↔
      ∃ deleted, t = [.called (.deleteClaim settings.ns claim) deleted] ∧ r = removed claim deleted := by
  have hremove : remove settings claim = Attempt.reply (.deleteClaim settings.ns claim) >>=
      fun deleted => Attempt.check (removed claim deleted) := by
    refine congrArg (_ >>= ·) (funext fun deleted => ?_)
    rcases deleted with e | ⟨⟩
    · cases hmissing : e.isNotFound with
      | true =>
        simp only [removed, hmissing]
        rfl
      | false =>
        simp only [removed, hmissing]
        rfl
    · rfl
  rw [hremove, Attempt.path_reply_bind_iff]
  constructor
  · rintro ⟨deleted, u, rfl, h⟩
    obtain ⟨rfl, rfl⟩ := Attempt.path_check_iff.1 h
    exact ⟨deleted, rfl, rfl⟩
  · rintro ⟨deleted, rfl, rfl⟩
    exact ⟨deleted, [], rfl, Attempt.path_check_iff.2 ⟨rfl, rfl⟩⟩

/-- The ways in which a release can go. -/
inductive ReleaseShape (settings : Settings) (claim : String) : List Event → Except Error Unit → Prop
  | absent {e : Error} : e.isNotFound = true →
      ReleaseShape settings claim [.called (.getClaim settings.ns claim) (.error e)] (.ok ())
  | unread {e : Error} : e.isNotFound = false →
      ReleaseShape settings claim [.called (.getClaim settings.ns claim) (.error e)] (.error e)
  | kept {current : BlockDeviceClaim} {e : Error} : current.hasFinalizer localFinalizer = true →
      ReleaseShape settings claim [.called (.getClaim settings.ns claim) (.ok current),
        .called (.replaceClaim settings.ns (current.removeFinalizer localFinalizer)) (.error e)]
        (.error (finalizerError claim e))
  | dropped {current stored : BlockDeviceClaim} {deleted : Except Error Unit} :
      current.hasFinalizer localFinalizer = true →
      ReleaseShape settings claim [.called (.getClaim settings.ns claim) (.ok current),
        .called (.replaceClaim settings.ns (current.removeFinalizer localFinalizer)) (.ok stored),
        .called (.deleteClaim settings.ns claim) deleted] (removed claim deleted)
  | unmarked {current : BlockDeviceClaim} {deleted : Except Error Unit} :
      current.hasFinalizer localFinalizer = false →
      ReleaseShape settings claim [.called (.getClaim settings.ns claim) (.ok current),
        .called (.deleteClaim settings.ns claim) deleted] (removed claim deleted)

theorem releaseShape_of_path {t : List Event} {r : Except Error Unit}
    (h : Path (release settings claim) t r) : ReleaseShape settings claim t r := by
  rw [release_eq] at h
  obtain ⟨found, u, rfl, h₁⟩ := Attempt.path_reply_bind_iff.1 h
  split at h₁
  case h_1 e =>
    split at h₁
    case isTrue hmissing =>
      obtain ⟨rfl, rfl⟩ := Attempt.path_pure_iff.1 h₁
      exact .absent hmissing
    case isFalse hother =>
      obtain ⟨rfl, rfl⟩ := Attempt.path_throw_iff.1 h₁
      exact .unread (Bool.eq_false_iff.2 hother)
  case h_2 current =>
    split at h₁
    case isTrue hmarked =>
      rcases Attempt.path_callOr_bind_iff.1 h₁ with ⟨e, rfl, rfl⟩ | ⟨stored, v, rfl, h₂⟩
      · exact .kept hmarked
      · obtain ⟨deleted, rfl, rfl⟩ := path_remove_iff.1 h₂
        exact .dropped hmarked
    case isFalse hunmarked =>
      obtain ⟨deleted, rfl, rfl⟩ := path_remove_iff.1 h₁
      exact .unmarked (Bool.eq_false_iff.2 hunmarked)

theorem ReleaseShape.path {t : List Event} {r : Except Error Unit} (h : ReleaseShape settings claim t r) :
    Path (release settings claim) t r := by
  rw [release_eq]
  cases h with
  | absent hmissing =>
    refine Attempt.path_reply_bind_iff.2 ⟨_, [], rfl, ?_⟩
    simp [hmissing]
  | unread hother =>
    refine Attempt.path_reply_bind_iff.2 ⟨_, [], rfl, ?_⟩
    simp [hother]
  | kept hmarked =>
    refine Attempt.path_reply_bind_iff.2 ⟨_, [_], rfl, ?_⟩
    simp only [hmarked, if_true]
    exact Attempt.path_callOr_bind_iff.2 (.inl ⟨_, rfl, rfl⟩)
  | dropped hmarked =>
    refine Attempt.path_reply_bind_iff.2 ⟨_, [_, _], rfl, ?_⟩
    simp only [hmarked, if_true]
    exact Attempt.path_callOr_bind_iff.2 (.inr ⟨_, [_], rfl, path_remove_iff.2 ⟨_, rfl, rfl⟩⟩)
  | unmarked hunmarked =>
    refine Attempt.path_reply_bind_iff.2 ⟨_, [_], rfl, ?_⟩
    simp only [hunmarked]
    exact path_remove_iff.2 ⟨_, rfl, rfl⟩

theorem path_release_ok {t : List Event} (h : Path (release settings claim) t (.ok ())) :
    (∃ e, t = [.called (.getClaim settings.ns claim) (.error e)]) ∨
      ∃ u deleted, t = u ++ [.called (.deleteClaim settings.ns claim) deleted] := by
  generalize hr : (Except.ok () : Except Error Unit) = r at h
  cases releaseShape_of_path h with
  | @absent e _ => exact .inl ⟨e, rfl⟩
  | unread _ => cases hr
  | kept _ => cases hr
  | @dropped _ _ deleted _ => exact .inr ⟨[_, _], deleted, rfl⟩
  | @unmarked _ deleted _ => exact .inr ⟨[_], deleted, rfl⟩

theorem get?_claims_of_release {faults : Call → Error → Prop} {m m' : Cluster.Memory} {t : List Event}
    (h : Path (release settings claim) t (.ok ())) (hrun : Cluster.Memory.Run faults m t m')
    (hget : ∀ e, ¬faults (.getClaim settings.ns claim) e)
    (hdelete : ∀ e, ¬faults (.deleteClaim settings.ns claim) e) :
    m'.claims.get? ⟨settings.ns, claim⟩ = none := by
  have hlast {m : Cluster.Memory} {c : Call} {r : Reply c}
      (hanswer : ∀ {n n' : Cluster.Memory}, n.Answers faults c r n' →
        n'.claims.get? ⟨settings.ns, claim⟩ = none)
      (hrun : Cluster.Memory.Run faults m [.called c r] m') :
      m'.claims.get? ⟨settings.ns, claim⟩ = none := by
    cases hrun with
    | called _ hgiven hdone =>
      rw [hdone.claims_of_calls (by simp)]
      exact hanswer hgiven
    | silent he _ => cases he
  rcases path_release_ok h with ⟨e, rfl⟩ | ⟨u, deleted, rfl⟩
  · exact hlast (fun hgiven => (hgiven.claims_of_getClaim_error (hget e)).2) hrun
  · obtain ⟨m₁, -, hdeleted⟩ := hrun.of_append
    exact hlast (fun hgiven => hgiven.claims_of_deleteClaim hdelete) hdeleted

theorem ensure_eq_ok {t : List Event} {name : String}
    (h : Path (ensure settings request) t (.ok name)) : name = claimName request.volume := by
  rw [ensure_eq] at h
  rcases Attempt.path_check_bind_iff.1 h with ⟨e, -, -, he⟩ | ⟨_, -, h₁⟩
  · cases he
  obtain ⟨found, u, rfl, h₂⟩ := Attempt.path_reply_bind_iff.1 h₁
  split at h₂
  · cases (Attempt.path_pure_iff.1 h₂).2
    rfl
  · split at h₂
    · exact (make_eq_ok h₂).1
    · cases (Attempt.path_throw_iff.1 h₂).2

theorem path_awaitDevice_succ {left : Nat} {t : List Event} {r : Except Error String}
    (h : Path (awaitDevice settings claim volume (left + 1)) t r) :
    (∃ e reason, t = [.called (.getClaim settings.ns claim) (.error e)] ∧
      r = .error (.blockDeviceClaim claim reason)) ∨
    ∃ current u, t = .called (.getClaim settings.ns claim) (.ok current) :: u ∧
      ((∃ device, current.boundDevice? = some device ∧ u = [] ∧ r = .ok device) ∨
        current.boundDevice? = none ∧ ((∃ activity, u = [.slept settings.claimPollMs true] ∧
            r = .error (.cancelled activity)) ∨
          ∃ v, u = .slept settings.claimPollMs false :: v ∧
            Path (awaitDevice settings claim volume left) v r)) := by
  unfold awaitDevice at h
  rcases Attempt.path_callOr_bind_iff.1 h with ⟨e, rfl, rfl⟩ | ⟨current, u, rfl, h₁⟩
  · exact .inl ⟨e, _, rfl, rfl⟩
  refine .inr ⟨current, u, rfl, ?_⟩
  split at h₁
  case h_1 device hdevice =>
    obtain ⟨rfl, rfl⟩ := Attempt.path_pure_iff.1 h₁
    exact .inl ⟨device, hdevice, rfl, rfl⟩
  case h_2 hnone =>
    refine .inr ⟨hnone, ?_⟩
    rcases Attempt.path_waitOr_bind_iff.1 h₁ with ⟨rfl, rfl⟩ | ⟨v, rfl, h₂⟩
    · exact .inl ⟨_, rfl, rfl⟩
    · exact .inr ⟨v, rfl, h₂⟩

theorem path_awaitDevice_zero {t : List Event} {r : Except Error String}
    (h : Path (awaitDevice settings claim volume 0) t r) : ∃ e, r = .error e := by
  rcases Attempt.path_bind_iff.1 h with ⟨e, -, rfl⟩ | ⟨u, v, _, rfl, -, hthrow⟩
  · exact ⟨e, rfl⟩
  · exact ⟨_, (Attempt.path_throw_iff.1 hthrow).2⟩

theorem awaitDevice_eq_ok {left : Nat} {t : List Event} {name : String}
    (h : Path (awaitDevice settings claim volume left) t (.ok name)) :
    ∃ u current, t = u ++ [.called (.getClaim settings.ns claim) (.ok current)] ∧
      current.boundDevice? = some name := by
  induction left generalizing t with
  | zero =>
    obtain ⟨e, he⟩ := path_awaitDevice_zero h
    cases he
  | succ left ih =>
    rcases path_awaitDevice_succ h with ⟨e, e', -, he⟩ | ⟨current, u, rfl, hlook⟩
    · cases he
    rcases hlook with ⟨device, hdevice, rfl, hname⟩ | ⟨-, ⟨e, -, he⟩ | ⟨v, rfl, hrest⟩⟩
    · cases hname
      exact ⟨[], current, rfl, hdevice⟩
    · cases he
    · obtain ⟨w, found, rfl, hdevice⟩ := ih hrest
      exact ⟨_ :: _ :: w, found, rfl, hdevice⟩

/-- To bind a request, its claim is made sure of and awaited, and then the device is read. -/
theorem path_bind {t : List Event} {r : Except Error (String × BlockDevice)}
    (h : Path (bind settings request) t r) :
    (∃ e, Path (ensure settings request) t (.error e) ∧ r = .error e) ∨
    ∃ u v, t = u ++ v ∧ Path (ensure settings request) u (.ok (claimName request.volume)) ∧
      ((∃ e, Path (awaitDevice settings (claimName request.volume) request.volume
          settings.claimRetryCount) v (.error e) ∧ r = .error e) ∨
        ∃ w name reply, v = w ++ [.called (.getBlockDevice settings.ns name) reply] ∧
          Path (awaitDevice settings (claimName request.volume) request.volume settings.claimRetryCount)
            w (.ok name) ∧
          ((∃ device, reply = .ok device ∧ r = .ok (claimName request.volume, device)) ∨
            ∃ e reason, reply = .error e ∧
              r = .error (.blockDeviceClaim (claimName request.volume) reason))) := by
  unfold bind at h
  rcases Attempt.path_bind_iff.1 h with ⟨e, hensure, rfl⟩ | ⟨u, v, name, rfl, hensure, h₁⟩
  · exact .inl ⟨e, hensure, rfl⟩
  obtain rfl := ensure_eq_ok hensure
  refine .inr ⟨u, v, rfl, hensure, ?_⟩
  rcases Attempt.path_bind_iff.1 h₁ with ⟨e, hawait, rfl⟩ | ⟨v, w, name, rfl, hawait, h₂⟩
  · exact .inl ⟨e, hawait, rfl⟩
  rcases Attempt.path_callOr_bind_iff.1 h₂ with ⟨e, rfl, rfl⟩ | ⟨device, w, rfl, h₃⟩
  · exact .inr ⟨v, name, .error e, rfl, hawait, .inr ⟨e, _, rfl, rfl⟩⟩
  · obtain ⟨rfl, rfl⟩ := Attempt.path_pure_iff.1 h₃
    exact .inr ⟨v, name, .ok device, rfl, hawait, .inl ⟨device, rfl, rfl⟩⟩

/-- When a request is bound, a read has found its claim bound, and only the device is read after that. -/
theorem bind_eq_ok {t : List Event} {bound : String × BlockDevice}
    (h : Path (bind settings request) t (.ok bound)) :
    bound.1 = claimName request.volume ∧ ∃ u current name, t = u ++
        [.called (.getClaim settings.ns (claimName request.volume)) (.ok current),
          .called (.getBlockDevice settings.ns name) (.ok bound.2)] ∧
      current.boundDevice? = some name := by
  rcases path_bind h with ⟨e, -, he⟩ | ⟨u, v, rfl, -, ⟨e, -, he⟩ | ⟨w, name, reply, rfl, hawait, hread⟩⟩
  · cases he
  · cases he
  rcases hread with ⟨device, rfl, hbound⟩ | ⟨e, e', -, he⟩
  · cases hbound
    obtain ⟨looks, current, rfl, hdevice⟩ := awaitDevice_eq_ok hawait
    exact ⟨rfl, u ++ looks, current, name, by simp, hdevice⟩
  · cases he

theorem path_provision_ok {request : ProvisionRequest} {plan : Plan} {t : List Event}
    {made : LocalVolume} (h : Path (provision settings request plan) t (.ok made)) :
    ∃ affinity bound, request.affinityLabels plan.config.affinityLabels? = .ok affinity ∧
      request.hostname ≠ "" ∧
      Path (bind settings (deviceRequest request plan.config affinity)) t (.ok bound) ∧
      made = volumeOn request plan affinity bound := by
  rw [provision_eq] at h
  rcases Attempt.path_check_bind_iff.1 h with ⟨e, -, -, he⟩ | ⟨affinity, haffinity, h₁⟩
  · cases he
  split at h₁
  · cases (Attempt.path_throw_iff.1 h₁).2
  · rcases Attempt.path_bind_iff.1 h₁ with ⟨e, -, he⟩ | ⟨v, w, bound, rfl, hbind, h₂⟩
    · cases he
    obtain ⟨rfl, hr⟩ := Attempt.path_pure_iff.1 h₂
    cases hr
    rw [List.append_nil]
    exact ⟨affinity, bound, haffinity, ‹_›, hbind, rfl⟩

theorem path_provision_of_node {request : ProvisionRequest} {plan : Plan} {affinity : TextMap}
    (haffinity : request.affinityLabels plan.config.affinityLabels? = .ok affinity)
    (hhost : request.hostname ≠ "") {t : List Event} {r : Except Error LocalVolume}
    (h : Path (provision settings request plan) t r) :
    ∃ bound, Path (bind settings (deviceRequest request plan.config affinity)) t bound ∧
      r = bound.map (volumeOn request plan affinity) := by
  rw [provision_eq] at h
  rcases Attempt.path_check_bind_iff.1 h with ⟨e, he, -, -⟩ | ⟨affinity', haffinity', h₁⟩
  · rw [haffinity] at he
    cases he
  rw [haffinity] at haffinity'
  cases haffinity'
  rw [if_neg hhost] at h₁
  rcases Attempt.path_bind_iff.1 h₁ with ⟨e, hbind, rfl⟩ | ⟨v, w, bound, rfl, hbind, h₂⟩
  · exact ⟨_, hbind, rfl⟩
  · obtain ⟨rfl, rfl⟩ := Attempt.path_pure_iff.1 h₂
    rw [List.append_nil]
    exact ⟨_, hbind, rfl⟩

theorem provision_eq_ok {request : ProvisionRequest} {plan : Plan} {t : List Event}
    {made : LocalVolume} (h : Path (provision settings request plan) t (.ok made)) :
    ∃ u current w, t = u ++
        .called (.getClaim settings.ns (claimName request.volume)) (.ok current) :: w ∧
      ∀ c ∈ calls w, c.isOnClaim = false := by
  obtain ⟨affinity, bound, -, -, hbind, -⟩ := path_provision_ok h
  obtain ⟨-, u, current, name, rfl, -⟩ := bind_eq_ok hbind
  refine ⟨u, current, [_], rfl, ?_⟩
  intro c hc
  rw [List.mem_singleton.1 hc]
  rfl

/-! ### All paths -/

section
variable (hP : Composable P)
include hP

theorem always_ensure (hget : ∀ r, P [.called (.getClaim settings.ns (claimName request.volume)) r])
    (hcreate : ∀ r, P [.called (.createClaim settings.ns (request.toClaim settings.ns)) r]) :
    Always P (ensure settings request) := by
  rw [ensure_eq]
  refine Attempt.always_bind hP (Attempt.always_check hP _) fun _ => ?_
  refine Attempt.always_bind hP (Attempt.always_reply hget) fun found => ?_
  split
  · exact Attempt.always_pure hP _
  · split
    · refine Attempt.always_bind hP (Attempt.always_reply hcreate) fun made => ?_
      split
      · exact Attempt.always_pure hP _
      · exact Attempt.always_pure hP _
      · exact Attempt.always_throw hP _
    · exact Attempt.always_throw hP _

/-- A claim is replaced right after it has been read, by what has been read without the finalizer, and
deleted right after that. -/
theorem always_release_of_steps (hget : ∀ r, P [.called (.getClaim settings.ns claim) r])
    (hkept : ∀ current e, P [.called (.getClaim settings.ns claim) (.ok current),
      .called (.replaceClaim settings.ns (current.removeFinalizer localFinalizer)) (.error e)])
    (hdropped : ∀ current stored r, P [.called (.getClaim settings.ns claim) (.ok current),
      .called (.replaceClaim settings.ns (current.removeFinalizer localFinalizer)) (.ok stored),
      .called (.deleteClaim settings.ns claim) r])
    (hdelete : ∀ r, P [.called (.deleteClaim settings.ns claim) r]) :
    Always P (release settings claim) := by
  intro t r ht
  cases releaseShape_of_path ht with
  | absent _ => exact hget _
  | unread _ => exact hget _
  | @kept current e _ => exact hkept current e
  | @dropped current stored deleted _ => exact hdropped current stored deleted
  | @unmarked _ deleted _ => exact hP.append (hget _) (hdelete deleted)

/-- What holds of a replacement that follows a read does not have to be shown with the deletion. -/
theorem always_release_of_read (hget : ∀ r, P [.called (.getClaim settings.ns claim) r])
    (hwrite : ∀ current r, P [.called (.getClaim settings.ns claim) (.ok current),
      .called (.replaceClaim settings.ns (current.removeFinalizer localFinalizer)) r])
    (hdelete : ∀ r, P [.called (.deleteClaim settings.ns claim) r]) :
    Always P (release settings claim) :=
  always_release_of_steps hP hget (fun current e => hwrite current (.error e))
    (fun current stored r => hP.append (hwrite current (.ok stored)) (hdelete r)) hdelete

theorem always_release (hget : ∀ r, P [.called (.getClaim settings.ns claim) r])
    (hreplace : ∀ current r, P [.called (.replaceClaim settings.ns current) r])
    (hdelete : ∀ r, P [.called (.deleteClaim settings.ns claim) r]) :
    Always P (release settings claim) :=
  always_release_of_read hP hget (fun current r => hP.append (hget (.ok current)) (hreplace _ r))
    hdelete

theorem always_abandon (hrelease : Always P (release settings claim)) :
    Always P (abandon settings claim volume) := by
  unfold abandon
  refine Attempt.always_bind hP (Attempt.always_warn hP _) fun _ => ?_
  refine Attempt.always_bind hP (Attempt.always_outcome hrelease) fun released => ?_
  split
  · exact Attempt.always_pure hP _
  · exact Attempt.always_warn hP _

theorem always_awaitDevice (hget : ∀ r, P [.called (.getClaim settings.ns claim) r])
    (hrelease : Always P (release settings claim)) (left : Nat) :
    Always P (awaitDevice settings claim volume left) := by
  induction left with
  | zero =>
    exact Attempt.always_bind hP (always_abandon hP hrelease) fun _ => Attempt.always_throw hP _
  | succ left ih =>
    unfold awaitDevice
    refine Attempt.always_bind hP (Attempt.always_callOr hget) fun current => ?_
    split
    · exact Attempt.always_pure hP _
    · exact Attempt.always_bind hP (Attempt.always_waitOr hP _ _) fun _ => ih

theorem always_bind
    (hget : ∀ r, P [.called (.getClaim settings.ns (claimName request.volume)) r])
    (hcreate : ∀ r, P [.called (.createClaim settings.ns (request.toClaim settings.ns)) r])
    (hrelease : Always P (release settings (claimName request.volume)))
    (hdevice : ∀ name r, P [.called (.getBlockDevice settings.ns name) r]) :
    Always P (bind settings request) := by
  unfold bind
  refine Attempt.always_bind_of_path hP (always_ensure hP hget hcreate) fun _ name hname => ?_
  obtain rfl := ensure_eq_ok hname
  refine Attempt.always_bind hP (always_awaitDevice hP hget hrelease _) fun device => ?_
  exact Attempt.always_bind hP (Attempt.always_callOr (hdevice device)) fun _ =>
    Attempt.always_pure hP _

theorem always_provision {request : ProvisionRequest} {plan : Plan}
    (hget : ∀ r, P [.called (.getClaim settings.ns (claimName request.volume)) r])
    (hcreate : ∀ affinity r, P [.called (.createClaim settings.ns
      ((deviceRequest request plan.config affinity).toClaim settings.ns)) r])
    (hrelease : Always P (release settings (claimName request.volume)))
    (hdevice : ∀ name r, P [.called (.getBlockDevice settings.ns name) r]) :
    Always P (provision settings request plan) := by
  rw [provision_eq]
  refine Attempt.always_bind hP (Attempt.always_check hP _) fun affinity => ?_
  split
  · exact Attempt.always_throw hP _
  · exact Attempt.always_bind hP (always_bind hP hget (hcreate affinity) hrelease hdevice) fun _ =>
      Attempt.always_pure hP _

end

/-! ### What is written to claims -/

section
open Cluster.Memory (WritesBack composable_writesBack replacesIn?)

variable {ns name : String}

theorem writesBack_singleton {c : Call} (h : replacesIn? c = none) (r : Reply c) :
    WritesBack ns name [.called c r] := by
  refine .other ?_ .nil
  rw [show (Program.Event.called c r : Event).call?.bind replacesIn? = none from h]
  exact nofun

/-- A release only writes back what it has read, without the finalizer. Claims of other namespaces it does
not write to. -/
theorem writesBack_release (h : settings.ns = ns → claim = name) :
    Always (WritesBack ns name) (release settings claim) := by
  have hP : Composable (WritesBack ns name) := composable_writesBack
  by_cases hns : settings.ns = ns
  · obtain rfl := h hns
    subst hns
    exact always_release_of_read hP (writesBack_singleton rfl) (fun _ _ => .written .nil)
      (writesBack_singleton rfl)
  · refine always_release hP (writesBack_singleton rfl) (fun current => ?_)
      (writesBack_singleton rfl)
    exact fun r => .other (fun hc => hns (Option.some.inj hc)) .nil

theorem writesBack_provision {request : ProvisionRequest} {plan : Plan}
    (h : settings.ns = ns → claimName request.volume = name) :
    Always (WritesBack ns name) (provision settings request plan) :=
  always_provision composable_writesBack (writesBack_singleton rfl)
    (fun _ => writesBack_singleton rfl) (writesBack_release h)
    fun _ => writesBack_singleton rfl

end

end NodeVolumes.Device
