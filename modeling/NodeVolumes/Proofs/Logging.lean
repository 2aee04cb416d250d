import NodeVolumes.Proofs.Engine

/-! # What calls of the engine report

The parts of a call only log. Its outcome is reported by the call itself, and by nothing else.

* `Attempt.OnlyLogs x`: a program only logs; the rules for it follow the steps of a program.
* `onlyLogs_planVolume`, `onlyLogs_makeVolume` and `onlyLogs_removeVolume`: so do the parts of a call.
* `reports_provision`: every provision call reports once, and no success of a kind that is not known.
* `reports_delete`: a delete call reports once if there is something to remove, and else not at all. -/

namespace NodeVolumes

open Cluster (Call Event)

namespace Attempt

variable {α β : Type}

/-- A program tells nothing but messages of the log. -/
def OnlyLogs (x : Attempt α) : Prop := x.run.OnlyTells fun n => n.isLog = true

theorem onlyLogs_pure (a : α) : OnlyLogs (pure a) := trivial

theorem onlyLogs_throw (e : Error) : OnlyLogs (throw e : Attempt α) := trivial

theorem onlyLogs_check (r : Except Error α) : OnlyLogs (check r) := trivial

theorem onlyLogs_call (c : Call) : OnlyLogs (call c) := fun _ => trivial

theorem onlyLogs_reply (c : Call) : OnlyLogs (reply c) := fun _ => trivial

theorem onlyLogs_warn (text : String) : OnlyLogs (warn text) := ⟨rfl, trivial⟩

theorem onlyLogs_bind {x : Attempt α} {f : α → Attempt β} (hx : OnlyLogs x)
    (hf : ∀ a, OnlyLogs (f a)) : OnlyLogs (x >>= f) := by
  unfold OnlyLogs
  rw [ExceptT.run_bind]
  refine Program.OnlyTells.bind hx fun a => ?_
  cases a with
  | error e => trivial
  | ok a => exact hf a

theorem onlyLogs_outcome {x : Attempt α} (h : OnlyLogs x) : OnlyLogs x.outcome :=
  Program.OnlyTells.bind h fun _ => trivial

theorem onlyLogs_callOr (c : Call) (reword : Error → Error) : OnlyLogs (callOr c reword) := by
  refine onlyLogs_bind (onlyLogs_reply c) fun a => ?_
  cases a with
  | ok a => exact onlyLogs_pure a
  | error e => exact onlyLogs_throw _

theorem onlyLogs_waitOr (ms : Nat) (e : Error) : OnlyLogs (waitOr ms e) := by
  refine onlyLogs_bind (x := ExceptT.lift (Program.wait ms)) (fun _ => trivial) fun cut => ?_
  cases cut with
  | true => exact onlyLogs_throw e
  | false => exact onlyLogs_pure ()

end Attempt

open Attempt (onlyLogs_pure onlyLogs_throw onlyLogs_check onlyLogs_call onlyLogs_reply onlyLogs_warn
  onlyLogs_bind onlyLogs_outcome onlyLogs_callOr onlyLogs_waitOr)

variable {settings : Settings} {request : ProvisionRequest} {t : List Event}

/-! ### Directories -/

namespace HostPath

theorem onlyLogs_launch (pod : Pod) : (launch settings pod).OnlyLogs := by
  refine onlyLogs_bind (onlyLogs_reply _) fun reply => ?_
  split
  · exact onlyLogs_pure _
  · exact onlyLogs_pure _
  · exact onlyLogs_throw _

theorem onlyLogs_awaitPod (name : String) (left : Nat) : (awaitPod settings name left).OnlyLogs := by
  induction left with
  | zero => exact onlyLogs_throw _
  | succ left ih =>
    refine onlyLogs_bind (onlyLogs_call _) fun pod => ?_
    split
    · exact onlyLogs_pure _
    · exact onlyLogs_throw _
    · exact onlyLogs_bind (onlyLogs_waitOr _ _) fun _ => ih

theorem onlyLogs_dispose (name : String) : (dispose settings name).OnlyLogs := by
  refine onlyLogs_bind (onlyLogs_reply _) fun reply => ?_
  split
  · exact onlyLogs_pure _
  · exact onlyLogs_warn _

theorem onlyLogs_runHelper (task : HelperTask) : (runHelper settings task).OnlyLogs := by
  refine onlyLogs_bind (onlyLogs_check _) fun pod => ?_
  refine onlyLogs_bind (onlyLogs_launch pod) fun _ => ?_
  refine onlyLogs_bind (onlyLogs_outcome (onlyLogs_awaitPod _ _)) fun result => ?_
  refine onlyLogs_bind (onlyLogs_dispose _) fun _ => ?_
  split
  · exact onlyLogs_pure _
  · exact onlyLogs_bind (onlyLogs_warn _) fun _ => onlyLogs_throw _

theorem onlyLogs_findNode (labels : TextMap) : (findNode labels).OnlyLogs := by
  refine onlyLogs_bind (onlyLogs_callOr _ _) fun nodes => ?_
  split
  · exact onlyLogs_throw _
  · exact onlyLogs_pure _
  · exact onlyLogs_throw _

theorem onlyLogs_applyQuota? (made : HelperTask) (grace : Option QuotaGrace) :
    (applyQuota? settings request made grace).OnlyLogs := by
  cases grace with
  | none => exact onlyLogs_pure _
  | some grace =>
    refine onlyLogs_bind (onlyLogs_check _) fun limits => ?_
    refine onlyLogs_bind (onlyLogs_outcome (onlyLogs_runHelper _)) fun result => ?_
    split
    · exact onlyLogs_pure _
    · exact onlyLogs_bind (onlyLogs_warn _) fun _ => onlyLogs_throw _

theorem onlyLogs_provision (plan : Plan) : (provision settings request plan).OnlyLogs := by
  rw [provision_eq]
  refine onlyLogs_bind (onlyLogs_check _) fun affinity => ?_
  refine onlyLogs_bind (onlyLogs_check _) fun path => ?_
  refine onlyLogs_bind (onlyLogs_check _) fun mode => ?_
  refine onlyLogs_bind (onlyLogs_runHelper _) fun _ => ?_
  exact onlyLogs_bind (onlyLogs_applyQuota? _ _) fun _ => onlyLogs_pure _

theorem onlyLogs_delete (record : VolumeRecord) : (delete settings record).OnlyLogs := by
  rw [delete_eq]
  split
  · exact onlyLogs_throw _
  · split
    · exact onlyLogs_throw _
    · exact onlyLogs_bind (onlyLogs_findNode _) fun node => onlyLogs_runHelper _

end HostPath

/-! ### Devices -/

namespace Device

theorem onlyLogs_make (request : DeviceRequest) : (make settings request).OnlyLogs := by
  refine onlyLogs_bind (onlyLogs_reply _) fun made => ?_
  split
  · exact onlyLogs_pure _
  · exact onlyLogs_pure _
  · exact onlyLogs_throw _

theorem onlyLogs_ensure (request : DeviceRequest) : (ensure settings request).OnlyLogs := by
  rw [ensure_eq]
  refine onlyLogs_bind (onlyLogs_check _) fun _ => ?_
  refine onlyLogs_bind (onlyLogs_reply _) fun found => ?_
  split
  · exact onlyLogs_pure _
  · split
    · exact onlyLogs_make request
    · exact onlyLogs_throw _

theorem onlyLogs_remove (claim : String) : (remove settings claim).OnlyLogs := by
  refine onlyLogs_bind (onlyLogs_reply _) fun deleted => ?_
  split
  · exact onlyLogs_pure _
  · split
    · exact onlyLogs_pure _
    · exact onlyLogs_throw _

theorem onlyLogs_release (claim : String) : (release settings claim).OnlyLogs := by
  rw [release_eq]
  refine onlyLogs_bind (onlyLogs_reply _) fun found => ?_
  split
  · split
    · exact onlyLogs_pure _
    · exact onlyLogs_throw _
  · split
    · exact onlyLogs_bind (onlyLogs_callOr _ _) fun _ => onlyLogs_remove claim
    · exact onlyLogs_remove claim

theorem onlyLogs_abandon (claim volume : String) : (abandon settings claim volume).OnlyLogs := by
  refine onlyLogs_bind (onlyLogs_warn _) fun _ => ?_
  refine onlyLogs_bind (onlyLogs_outcome (onlyLogs_release claim)) fun result => ?_
  split
  · exact onlyLogs_pure _
  · exact onlyLogs_warn _

theorem onlyLogs_awaitDevice (claim volume : String) (left : Nat) :
    (awaitDevice settings claim volume left).OnlyLogs := by
  induction left with
  | zero => exact onlyLogs_bind (onlyLogs_abandon claim volume) fun _ => onlyLogs_throw _
  | succ left ih =>
    refine onlyLogs_bind (onlyLogs_callOr _ _) fun current => ?_
    split
    · exact onlyLogs_pure _
    · exact onlyLogs_bind (onlyLogs_waitOr _ _) fun _ => ih

theorem onlyLogs_bindDevice (request : DeviceRequest) : (Device.bind settings request).OnlyLogs := by
  refine onlyLogs_bind (onlyLogs_ensure request) fun claim => ?_
  refine onlyLogs_bind (onlyLogs_awaitDevice _ _ _) fun name => ?_
  exact onlyLogs_bind (onlyLogs_callOr _ _) fun device => onlyLogs_pure _

theorem onlyLogs_provision (plan : Plan) : (provision settings request plan).OnlyLogs := by
  rw [provision_eq]
  refine onlyLogs_bind (onlyLogs_check _) fun affinity => ?_
  split
  · exact onlyLogs_throw _
  · exact onlyLogs_bind (onlyLogs_bindDevice _) fun bound => onlyLogs_pure _

theorem onlyLogs_delete (record : VolumeRecord) : (delete settings record).OnlyLogs := by
  unfold delete
  split
  · exact onlyLogs_pure _
  · exact onlyLogs_release _

end Device

/-! ### The parts of a call -/

theorem onlyLogs_planVolume : (planVolume settings request).OnlyLogs := by
  refine onlyLogs_bind (onlyLogs_check _) fun _ => ?_
  split
  · exact onlyLogs_throw _
  · exact onlyLogs_bind (onlyLogs_call _) fun cls => onlyLogs_check _

theorem onlyLogs_makeVolume (plan : Plan) : (makeVolume settings request plan).OnlyLogs := by
  unfold makeVolume
  split
  · exact HostPath.onlyLogs_provision plan
  · exact Device.onlyLogs_provision plan

theorem onlyLogs_removeVolume (record : VolumeRecord) : (removeVolume settings record).OnlyLogs := by
  unfold removeVolume
  split
  · exact HostPath.onlyLogs_delete record
  · exact Device.onlyLogs_delete record

/-! ### Reports -/

theorem reports_of_onlyLogs {α : Type} {x : Attempt α} {r : Except Error α} (hx : x.OnlyLogs)
    (h : x.Path t r) : reports t = [] := by
  refine List.filter_eq_nil_iff.2 fun n hn => ?_
  rw [hx.of_path h n hn]
  exact Bool.false_ne_true

/-- A provision call reports its outcome once. The kind is only missing when the call has failed. -/
theorem reports_provision {r : Except Error LocalVolume} (h : (provision settings request).Path t r) :
    ∃ kind, reports t = [.provisioned kind r.isOk] ∧ (kind = none → r.isOk = false) := by
  unfold provision at h
  obtain ⟨u, v, plan, rfl, hplan, h₁⟩ := Program.path_bind_iff.1 h
  have hu : reports u = [] := reports_of_onlyLogs onlyLogs_planVolume hplan
  cases plan with
  | error e =>
    obtain ⟨rfl, -, hv⟩ := path_reportProvision h₁
    refine ⟨none, ?_, fun _ => rfl⟩
    rw [reports_append, hu, hv]
    rfl
  | ok plan =>
    obtain ⟨v, w, result, rfl, hmake, h₂⟩ := Program.path_bind_iff.1 h₁
    have hv : reports v = [] := reports_of_onlyLogs (onlyLogs_makeVolume plan) hmake
    obtain ⟨rfl, -, hw⟩ := path_reportProvision h₂
    refine ⟨some plan.kind, ?_, nofun⟩
    rw [reports_append, reports_append, hu, hv, hw]
    rfl

/-- A delete call reports its outcome once when there is something to remove, under the kind on record. -/
theorem reports_delete {pv : PersistentVolume} {r : Except Error Unit}
    (h : (delete settings pv).Path t r) :
    reports t = match VolumeRecord.ofPersistentVolume pv with
      | .error _ => []
      | .ok record => if record.isRetained then [] else [.deleted record.kind r.isOk] := by
  unfold delete at h
  cases hrecord : VolumeRecord.ofPersistentVolume pv with
  | error e =>
    rw [hrecord] at h
    rw [(Program.path_done_iff.1 h).1]
    rfl
  | ok record =>
    rw [hrecord] at h
    dsimp only at h ⊢
    by_cases hretained : record.isRetained = true
    · rw [if_pos hretained] at h ⊢
      rw [(Program.path_done_iff.1 h).1]
      rfl
    · rw [if_neg hretained] at h ⊢
      obtain ⟨u, v, result, rfl, hremove, h₁⟩ := Program.path_bind_iff.1 h
      obtain ⟨rfl, -, hv⟩ := path_reportDelete h₁
      rw [reports_append, reports_of_onlyLogs (onlyLogs_removeVolume record) hremove, hv]
      rfl

end NodeVolumes
