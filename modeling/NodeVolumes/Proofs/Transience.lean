import NodeVolumes.Proofs.Cluster.Play
import NodeVolumes.Proofs.Controller.Work
import NodeVolumes.Proofs.Engine

/-! # Transient failures of deletions

The controller tells apart the volumes whose deletion will be tried again and those that need attention, by
the class of the error. A deletion passes on the error of a call that has failed, or words it anew. The class
only survives where the error is passed on.

* `Attempt.FailsAs word x`: when a call of `x` fails, so does `x`, as it words the failure.
* `failsAs_delete`: how deletions word the failures of their calls.
* `report_of_failed_delete`: what the controller makes of an error of the API server. -/

namespace NodeVolumes

open Cluster (Call Event error_mem_ok_cons)
open Cluster.Memory (callWorld)
open Attempt (Path)

/-! ### Failures in words -/

/-- Tells the failures of calls that a deletion cannot pass over: the deletion of a helper pod is only tried,
and what exists already or is missing already is as good as created or deleted. -/
def Cluster.Call.isFatal : Call → Error → Bool
  | .deletePod .., _ => false
  | .createPod .., e => !e.isExists
  | .getClaim .., e | .deleteClaim .., e => !e.isNotFound
  | _, _ => true

namespace Attempt

variable {α β : Type} {word : Call → Error → Error}

/-- When a call of a program fails and the program cannot pass over it, then the program fails with the error
as it words it. -/
def FailsAs (word : Call → Error → Error) (x : Attempt α) : Prop :=
  ∀ t r, Path x t r → ∀ c e, .called c (.error e) ∈ t → c.isFatal e = true → r = .error (word c e)

theorem failsAs_pure (a : α) : FailsAs word (pure a) := by
  intro t r h c e hmem
  rw [(path_pure_iff.1 h).1] at hmem
  cases hmem

theorem failsAs_throw (e : Error) : FailsAs word (throw e : Attempt α) := by
  intro t r h c e hmem
  rw [(path_throw_iff.1 h).1] at hmem
  cases hmem

theorem failsAs_waitOr (ms : Nat) (e : Error) : FailsAs word (waitOr ms e) := by
  intro t r h c e' hmem
  obtain ⟨cut, rfl, -⟩ := path_waitOr_iff.1 h
  cases List.mem_singleton.1 hmem

theorem failsAs_call {c : Call} (hword : ∀ e, word c e = e) : FailsAs word (call c) := by
  intro t r h c' e hmem hfatal
  rw [path_call_iff.1 h] at hmem
  cases List.mem_singleton.1 hmem
  rw [hword]

theorem failsAs_callOr {c : Call} {reword : Error → Error} (hword : ∀ e, word c e = reword e) :
    FailsAs word (callOr c reword) := by
  intro t r h c' e hmem hfatal
  obtain ⟨a, rfl, rfl⟩ := path_callOr_iff.1 h
  cases List.mem_singleton.1 hmem
  rw [hword]
  rfl

theorem failsAs_bind {x : Attempt α} {f : α → Attempt β} (hx : FailsAs word x)
    (hf : ∀ a, FailsAs word (f a)) : FailsAs word (x >>= f) := by
  intro t r h c e hmem hfatal
  rcases path_bind_iff.1 h with ⟨e', hfirst, rfl⟩ | ⟨u, v, a, rfl, hu, hv⟩
  · cases hx t _ hfirst c e hmem hfatal
    rfl
  · rcases List.mem_append.1 hmem with hmem | hmem
    · cases hx u _ hu c e hmem hfatal
    · exact hf a v r hv c e hmem hfatal

end Attempt

open Attempt (FailsAs)

section
variable {settings : Settings} {word : Call → Error → Error}

/-! ### Directories -/

namespace HostPath

theorem failsAs_findNode {labels : TextMap} (hword : ∀ e, word (.listNodes labels) e =
    .nodeLookup (Text.quotedPairs labels.toList) e.message) : FailsAs word (findNode labels) := by
  unfold findNode
  refine Attempt.failsAs_bind (Attempt.failsAs_callOr hword) fun nodes => ?_
  split
  · exact Attempt.failsAs_throw _
  · exact Attempt.failsAs_pure _
  · exact Attempt.failsAs_throw _

theorem failsAs_awaitPod {name : String} (hget : ∀ e, word (.getPod settings.ns name) e = e) (left : Nat) :
    FailsAs word (awaitPod settings name left) := by
  induction left with
  | zero => exact Attempt.failsAs_throw _
  | succ left ih =>
    unfold awaitPod
    refine Attempt.failsAs_bind (Attempt.failsAs_call hget) fun pod => ?_
    split
    · exact Attempt.failsAs_pure _
    · exact Attempt.failsAs_throw _
    · exact Attempt.failsAs_bind (Attempt.failsAs_waitOr _ _) fun _ => ih

theorem failsAs_runHelper {task : HelperTask} (hcreate : ∀ pod e, word (.createPod settings.ns pod) e = e)
    (hget : ∀ name e, word (.getPod settings.ns name) e = e) : FailsAs word (runHelper settings task) := by
  intro t r h c e hmem hfatal
  cases runShape_of_path h with
  | refused _ => cases hmem
  | rejected _ _ =>
    cases List.mem_singleton.1 hmem
    rw [hcreate]
  | @ran pod reply looks told deleted r _ hlaunched hawait htold =>
    rcases List.mem_cons.1 hmem with heq | hmem
    · -- the pod was there already, which is passed over
      cases heq
      have hexists : e.isExists = true := hlaunched
      simp [Call.isFatal, hexists] at hfatal
    rcases List.mem_append.1 hmem with hmem | hmem
    · exact failsAs_awaitPod (hget task.podName) _ looks r hawait c e hmem hfatal
    rcases List.mem_cons.1 hmem with heq | hmem
    · cases heq
      cases hfatal
    · have hcall := Program.Event.mem_calls_of_mem hmem
      rw [htold] at hcall
      cases hcall

end HostPath

/-! ### Devices -/

namespace Device

theorem failsAs_release {claim : String} (hget : ∀ e, word (.getClaim settings.ns claim) e = e)
    (hreplace : ∀ written e, word (.replaceClaim settings.ns written) e = finalizerError claim e)
    (hdelete : ∀ e, word (.deleteClaim settings.ns claim) e =
      .blockDeviceClaim claim ("unable to delete: " ++ e.message)) :
    FailsAs word (release settings claim) := by
  intro t r h c e hmem hfatal
  have hremoved (hother : e.isNotFound = false) :
      removed claim (.error e) = .error (word (.deleteClaim settings.ns claim) e) := by
    simp [removed, hother, hdelete]
  cases releaseShape_of_path h with
  | absent hmissing =>
    cases List.mem_singleton.1 hmem
    simp [Call.isFatal, hmissing] at hfatal
  | unread _ =>
    cases List.mem_singleton.1 hmem
    rw [hget]
  | kept _ =>
    cases List.mem_singleton.1 (error_mem_ok_cons.1 hmem)
    rw [hreplace]
  | dropped _ =>
    cases List.mem_singleton.1 (error_mem_ok_cons.1 (error_mem_ok_cons.1 hmem))
    exact hremoved (by simpa [Call.isFatal] using hfatal)
  | unmarked _ =>
    cases List.mem_singleton.1 (error_mem_ok_cons.1 hmem)
    exact hremoved (by simpa [Call.isFatal] using hfatal)

end Device

/-! ### Deletions -/

/-- How a deletion words the failure of a call. -/
def VolumeRecord.failure (record : VolumeRecord) : Call → Error → Error
  | .listNodes labels, e => .nodeLookup (Text.quotedPairs labels.toList) e.message
  | .replaceClaim .., e => Device.finalizerError (record.claimName.getD "") e
  | .deleteClaim .., e =>
    .blockDeviceClaim (record.claimName.getD "") ("unable to delete: " ++ e.message)
  | _, e => e

/-- Tells the calls whose failure a deletion words anew, in an error of its own. -/
def Cluster.Call.isReworded : Call → Bool
  | .listNodes _ | .replaceClaim .. | .deleteClaim .. => true
  | _ => false

theorem VolumeRecord.failure_of_isReworded_eq_false (record : VolumeRecord) {c : Call}
    (h : c.isReworded = false) (e : Error) : record.failure c e = e := by
  cases c <;> first | rfl | cases h

/-- An error that is worded anew does not count as transient any more. -/
theorem VolumeRecord.isTransient_failure (record : VolumeRecord) (c : Call) (e : Error) :
    (record.failure c e).isTransient = (e.isTransient && !c.isReworded) := by
  cases hreworded : c.isReworded with
  | false => simp [record.failure_of_isReworded_eq_false hreworded]
  | true =>
    rw [Bool.not_true, Bool.and_false]
    cases c <;> first | rfl | cases hreworded

theorem HostPath.failsAs_delete (record : VolumeRecord) :
    FailsAs record.failure (HostPath.delete settings record) := by
  rw [HostPath.delete_eq]
  split
  · exact Attempt.failsAs_throw _
  · split
    · exact Attempt.failsAs_throw _
    · exact Attempt.failsAs_bind (HostPath.failsAs_findNode fun _ => rfl) fun node =>
        HostPath.failsAs_runHelper (fun _ _ => rfl) fun _ _ => rfl

theorem Device.failsAs_delete (record : VolumeRecord) :
    FailsAs record.failure (Device.delete settings record) := by
  unfold Device.delete
  split
  case h_1 => exact Attempt.failsAs_pure _
  case h_2 claim hclaim =>
    refine Device.failsAs_release (fun _ => rfl) (fun _ e => ?_) fun e => ?_ <;>
      simp [VolumeRecord.failure, hclaim]

/-- When a call of a deletion fails, so does the deletion, unless it can pass over the failure. -/
theorem failsAs_delete {pv : PersistentVolume} {t : List Event} {r : Except Error Unit}
    (h : (delete settings pv).Path t r) {c : Call} {e : Error} (hmem : .called c (.error e) ∈ t)
    (hfatal : c.isFatal e = true) :
    ∃ record, VolumeRecord.ofPersistentVolume pv = .ok record ∧ r = .error (record.failure c e) := by
  unfold delete at h
  split at h
  case h_1 =>
    rw [(Program.path_done_iff.1 h).1] at hmem
    cases hmem
  case h_2 record hrecord =>
    split at h
    · rw [(Program.path_done_iff.1 h).1] at hmem
      cases hmem
    · obtain ⟨u, v, result, rfl, hremove, hreport⟩ := Program.path_bind_iff.1 h
      obtain ⟨rfl, hv, -⟩ := path_reportDelete hreport
      refine ⟨record, hrecord, ?_⟩
      rcases List.mem_append.1 hmem with hmem | hmem
      · unfold removeVolume at hremove
        split at hremove
        · exact HostPath.failsAs_delete record u r hremove c e hmem hfatal
        · exact Device.failsAs_delete record u r hremove c e hmem hfatal
      · have hcall := Program.Event.mem_calls_of_mem hmem
        rw [hv] at hcall
        cases hcall

/-! ### Reports of the controller -/

namespace Controller

open Work (Path)

/-- What the controller logs about a volume that is not deleted. -/
def deletionNote (transient : Bool) (pv : PersistentVolume) (e : Error) : Note :=
  if transient then
    .log .warning ("Volume " ++ pv.metadata.nameD ++ " not deleted, will retry: " ++ e.message)
  else .log .error ("Volume " ++ pv.metadata.nameD ++ " not deleted, needs attention: " ++ e.message)

/-- The class of the error decides what is logged, and nothing else is done about the volume. -/
theorem path_deleteVolume_error {pv : PersistentVolume} {p q : Parked} {log : List Event} {e : Error}
    (h : Path (deleteVolume pv) p (.called (.delete pv) (.error e) :: log) () q) :
    log = [.told (deletionNote e.isTransient pv e)] := by
  unfold deleteVolume at h
  obtain ⟨outcome, u, hlog, h₁⟩ := Work.path_ask_bind_iff.1 h
  cases hlog
  cases htransient : e.isTransient with
  | true =>
    simp only [htransient, if_true] at h₁
    exact (Work.path_log_iff.1 h₁).1
  | false =>
    simp only [htransient] at h₁
    exact (Work.path_log_iff.1 h₁).1

end Controller

/-- The class of an error of the API server survives in a deletion unless the nodes could not be listed, or a
claim not be written or deleted.

Whatever the cluster answers: when the server fails a call of a deletion, other than the deletion of a helper
pod, then the deletion fails too. The error of the call is passed on, is transient and makes the controller
announce another try; but the failures of those three calls are worded anew, are not transient and are reported
as needing attention. -/
theorem report_of_failed_delete {pv : PersistentVolume} {t : List Event} {r : Except Error Unit}
    (h : (delete settings pv).Path t r) {c : Call} {cause : ApiError}
    (hmem : .called c (.error (.api cause)) ∈ t) (hc : ∀ ns name, c ≠ .deletePod ns name) :
    ∃ record e, VolumeRecord.ofPersistentVolume pv = .ok record ∧ r = .error e ∧
      e = record.failure c (.api cause) ∧ (c.isReworded = false → e = .api cause) ∧
      e.isTransient = !c.isReworded ∧
      ∀ p log q, Controller.Work.Path (Controller.deleteVolume pv) p (.called (.delete pv) r :: log) () q →
        log = [.told (Controller.deletionNote (!c.isReworded) pv e)] := by
  have hfatal : c.isFatal (.api cause) = true := by
    cases c with
    | deletePod ns name => exact absurd rfl (hc ns name)
    | _ => rfl
  obtain ⟨record, hrecord, rfl⟩ := failsAs_delete h hmem hfatal
  have hclass : (record.failure c (.api cause)).isTransient = !c.isReworded :=
    record.isTransient_failure c (.api cause)
  refine ⟨record, _, hrecord, rfl, rfl, ?_, hclass, fun p log q hlog => ?_⟩
  · exact fun hpassed => record.failure_of_isReworded_eq_false hpassed _
  · rw [← hclass]
    exact Controller.path_deleteVolume_error hlog

end

namespace Small

/-- The server cannot answer. -/
def outage : ApiError := .reported ⟨500, "boom", "InternalError"⟩

/-- No pod can be looked at. -/
def failingLooks : Call → Option Error
  | .getPod .. => some (.api outage)
  | _ => none

/-- The nodes cannot be listed. -/
def failingLists : Call → Option Error
  | .listNodes _ => some (.api outage)
  | _ => none

/-- The persistent volume for a directory. -/
def localVolume : PersistentVolume := volume "/var/local/pvc-1"

/-- What happens when its volume is deleted and some calls fail. -/
def deletionEvents (fault : Call → Option Error) : List Event :=
  (callWorld fault).trace (delete settings localVolume) (cluster "", none)

/-- The result of the deletion. -/
def deletionResult (fault : Call → Option Error) : Except Error Unit :=
  ((callWorld fault).run (delete settings localVolume) (cluster "", none)).1

theorem path_deletionEvents (fault : Call → Option Error) :
    (delete settings localVolume).Path (deletionEvents fault) (deletionResult fault) :=
  World.path_run (callWorld fault) (delete settings localVolume) (cluster "", none)

end Small

/-- A failed look at the helper pod is passed on as it is, and the deletion will be tried again. -/
theorem report_of_failed_delete_looks :
    Small.deletionResult Small.failingLooks = .error (.api Small.outage) ∧
      (Error.api Small.outage).isTransient = true ∧
      ∀ p log q, Controller.Work.Path (Controller.deleteVolume Small.localVolume) p
          (.called (.delete Small.localVolume) (Small.deletionResult Small.failingLooks) :: log) () q →
        log = [.told (Controller.deletionNote true Small.localVolume (.api Small.outage))] := by
  have hlook : .called (.getPod "openebs" "cleanup-pvc-1") (.error (.api Small.outage)) ∈
      Small.deletionEvents Small.failingLooks := by decide +kernel
  obtain ⟨record, e, -, hr, -, hpassed, hclass, hlog⟩ :=
    report_of_failed_delete (Small.path_deletionEvents Small.failingLooks) hlook (by simp)
  obtain rfl := hpassed rfl
  exact ⟨hr, hclass, hlog⟩

/-- An error of the API server in a deletion is not always transient: it is not when the nodes cannot be
listed. -/
theorem not_transient_of_failed_delete :
    ¬∀ (settings : Settings) (pv : PersistentVolume) (t : List Event) (r : Except Error Unit) (c : Call)
        (cause : ApiError) (e : Error),
      (delete settings pv).Path t r → .called c (.error (.api cause)) ∈ t →
      (∀ ns name, c ≠ .deletePod ns name) → r = .error e → e.isTransient = true := by
  intro h
  have hlist : .called (.listNodes (KeyMap.singleton hostnameLabel "node-1"))
      (.error (.api Small.outage)) ∈ Small.deletionEvents Small.failingLists := by decide +kernel
  obtain ⟨record, -, hr⟩ := failsAs_delete (Small.path_deletionEvents Small.failingLists) hlist rfl
  cases h _ _ _ _ _ _ _ (Small.path_deletionEvents Small.failingLists) hlist (by simp) hr

end NodeVolumes
