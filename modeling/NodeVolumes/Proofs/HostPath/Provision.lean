import NodeVolumes.HostPath.Provision
import NodeVolumes.Proofs.Cluster.Run
import NodeVolumes.Proofs.HostPath.Helper

/-! # Helper runs of a volume

Making or removing a directory volume reads what it has to know, and then runs helper tasks one after the
other, until one of them fails.

* `HelperRuns`: runs in turn of which only the last one may fail.
* `helperRuns_provision` and `helperRuns_delete`: nothing else happens to helper pods. -/

namespace NodeVolumes.HostPath

open Cluster (Call Event Reply)
open Program.Event (calls)
open Attempt (Path)

/-! ### Calls on pods -/

/-- No call among the events is on a pod. -/
def SparesPods (t : List Event) : Prop := ∀ c ∈ calls t, c.isOnPod = false

theorem composable_sparesPods : Attempt.Composable SparesPods := Attempt.composable_calls _

theorem sparesPods_singleton {c : Call} (h : c.isOnPod = false) (r : Reply c) :
    SparesPods [.called c r] :=
  Program.Event.forall_mem_calls_singleton (fun c : Call => c.isOnPod = false) h r

/-- No call among the events is on a claim. -/
def SparesClaims (t : List Event) : Prop := ∀ c ∈ calls t, c.isOnClaim = false

theorem composable_sparesClaims : Attempt.Composable SparesClaims := Attempt.composable_calls _

theorem sparesClaims_singleton {c : Call} (h : c.isOnClaim = false) (r : Reply c) :
    SparesClaims [.called c r] :=
  Program.Event.forall_mem_calls_singleton (fun c : Call => c.isOnClaim = false) h r

/-! ### Runs in turn -/

/-- Runs of helper tasks in turn. Only the last one may fail, and its failure is the outcome. -/
inductive HelperRuns (settings : Settings) (tasks : HelperTask → Prop) {α : Type} :
    List Event → Except Error α → Prop
  | ended {t : List Event} {r : Except Error α} : calls t = [] → HelperRuns settings tasks t r
  | succeeded {task : HelperTask} {u t : List Event} {r : Except Error α} : tasks task →
      Path (runHelper settings task) u (.ok ()) → HelperRuns settings tasks t r →
      HelperRuns settings tasks (u ++ t) r
  | failed {task : HelperTask} {u t : List Event} {e : Error} : tasks task →
      Path (runHelper settings task) u (.error e) → calls t = [] →
      HelperRuns settings tasks (u ++ t) (.error e)

namespace HelperRuns

variable {settings : Settings} {tasks : HelperTask → Prop} {α β : Type} {t u : List Event}
  {r : Except Error α} {e : Error}

theorem append (h : HelperRuns settings tasks t r) (hu : calls u = []) :
    HelperRuns settings tasks (t ++ u) r := by
  induction h with
  | ended ht => exact .ended (by rw [Program.Event.calls_append, ht, hu]; rfl)
  | succeeded htask hrun _ ih =>
    rw [List.append_assoc]
    exact .succeeded htask hrun ih
  | failed htask hrun ht =>
    rw [List.append_assoc]
    exact .failed htask hrun (by rw [Program.Event.calls_append, ht, hu]; rfl)

/-- The outcome may be anything else unless it is a failure. -/
theorem withOutcome (h : HelperRuns settings tasks t r) {r' : Except Error β}
    (hr : ∀ e, r = .error e → r' = .error e) : HelperRuns settings tasks t r' := by
  induction h with
  | ended ht => exact .ended ht
  | succeeded htask hrun _ ih => exact .succeeded htask hrun (ih hr)
  | failed htask hrun ht =>
    rw [hr _ rfl]
    exact .failed htask hrun ht

theorem mono (h : HelperRuns settings tasks t r) {tasks' : HelperTask → Prop}
    (hsub : ∀ task, tasks task → tasks' task) : HelperRuns settings tasks' t r := by
  induction h with
  | ended ht => exact .ended ht
  | succeeded htask hrun _ ih => exact .succeeded (hsub _ htask) hrun ih
  | failed htask hrun ht => exact .failed (hsub _ htask) hrun ht

end HelperRuns

/-- What comes after the creation of a pod: when it is launched, it is looked at, and deleted before any
other call; when it is not, nothing is called any more and its error is the outcome. -/
structure HelperRuns.Created (settings : Settings) (tasks : HelperTask → Prop) {α : Type}
    (ns : String) (pod : Pod) (reply : Except Error Pod) (post : List Event) (r : Except Error α) :
    Prop where
  ns_eq : ns = settings.ns
  task : ∃ task, tasks task ∧ task.pod settings = .ok pod
  launched : isLaunched reply = true → ∃ looks ≤ settings.helperPollCount, ∃ later,
    calls post = List.replicate looks (.getPod ns pod.metadata.nameD) ++
      .deletePod ns pod.metadata.nameD :: later ∧
    (later = [] ∨ ∃ ns' pod' rest, later = .createPod ns' pod' :: rest)
  refused : ∀ e, reply = .error e → isLaunched reply = false → calls post = [] ∧ r = .error e

namespace HelperRuns

variable {settings : Settings} {tasks : HelperTask → Prop} {α : Type} {t pre post : List Event}
  {r : Except Error α} {ns : String} {pod : Pod} {reply : Except Error Pod}

theorem always (h : HelperRuns settings tasks t r) {P : List Event → Prop} (hP : Attempt.Composable P)
    (hpod : ∀ c r, c.isOnPod = true → P [.called c r]) : P t := by
  have hrun {task : HelperTask} : (runHelper settings task).Always P :=
    always_runHelper hP (fun _ _ _ => hpod _ _ rfl) (fun _ => hpod _ _ rfl) fun _ => hpod _ _ rfl
  induction h with
  | ended ht => exact hP.of_calls_eq_nil ht
  | succeeded _ hpath _ ih => exact hP.append (hrun _ _ hpath) ih
  | failed _ hpath ht => exact hP.append (hrun _ _ hpath) (hP.of_calls_eq_nil ht)

theorem podKey?_eq (h : HelperRuns settings tasks t r) :
    ∀ c ∈ calls t, ∃ task, tasks task ∧ c.podKey? = some ⟨settings.ns, task.podName⟩ := by
  induction h with
  | ended ht =>
    rw [ht]
    exact fun c hc => by cases hc
  | @succeeded task u t r htask hrun _ ih =>
    intro c hc
    rw [Program.Event.calls_append, List.mem_append] at hc
    rcases hc with hc | hc
    · exact ⟨task, htask, podKey?_of_runHelper hrun c hc⟩
    · exact ih c hc
  | @failed task u t e htask hrun ht =>
    intro c hc
    rw [Program.Event.calls_append, ht, List.append_nil] at hc
    exact ⟨task, htask, podKey?_of_runHelper hrun c hc⟩

theorem calls_eq_nil_or (h : HelperRuns settings tasks t r) :
    calls t = [] ∨ ∃ ns' pod' rest, calls t = .createPod ns' pod' :: rest := by
  cases h with
  | ended ht => exact .inl ht
  | succeeded _ hrun _ =>
    cases runShape_of_path hrun with
    | ran => exact .inr ⟨_, _, _, rfl⟩
  | failed _ hrun ht =>
    cases runShape_of_path hrun with
    | refused => exact .inl ht
    | rejected => exact .inr ⟨_, _, _, rfl⟩
    | ran => exact .inr ⟨_, _, _, rfl⟩

/-- Every creation of a pod among runs in turn is followed by the deletion of the pod, or is the end. -/
theorem created (h : HelperRuns settings tasks t r)
    (ht : t = pre ++ .called (.createPod ns pod) reply :: post) :
    Created settings tasks ns pod reply post r := by
  induction h generalizing pre with
  | ended hcalls =>
    rw [ht, Program.Event.calls_append, Program.Event.calls_called_cons] at hcalls
    simp at hcalls
  | @succeeded task u t r htask hrun hrest ih =>
    rcases Program.append_eq_append_cons ht with ⟨v, rfl, rfl⟩ | ⟨v, -, hv⟩
    · obtain ⟨rfl, rfl, hpod, hreply⟩ := (runShape_of_path hrun).of_create
      rcases hreply with ⟨hlaunched, looks, hle, hcalls⟩ | ⟨e, -, -, -, he⟩
      · refine ⟨rfl, ⟨task, htask, hpod⟩, fun _ => ⟨looks, hle, calls t, ?_, hrest.calls_eq_nil_or⟩,
          fun e _ hfalse => ?_⟩
        · rw [Program.Event.calls_append, hcalls, HelperTask.nameD_of_pod_eq_ok hpod,
            List.append_assoc]
          rfl
        · rw [hlaunched] at hfalse
          cases hfalse
      · cases he
    · exact ih hv
  | @failed task u t e htask hrun hrest =>
    rcases Program.append_eq_append_cons ht with ⟨v, rfl, rfl⟩ | ⟨v, -, rfl⟩
    · obtain ⟨rfl, rfl, hpod, hreply⟩ := (runShape_of_path hrun).of_create
      rcases hreply with ⟨hlaunched, looks, hle, hcalls⟩ | ⟨e, rfl, hrefused, rfl, he⟩
      · refine ⟨rfl, ⟨task, htask, hpod⟩, fun _ => ⟨looks, hle, [], ?_, .inl rfl⟩,
          fun e _ hfalse => ?_⟩
        · rw [Program.Event.calls_append, hcalls, HelperTask.nameD_of_pod_eq_ok hpod, hrest,
            List.append_nil]
        · rw [hlaunched] at hfalse
          cases hfalse
      · cases he
        refine ⟨rfl, ⟨task, htask, hpod⟩, fun htrue => ?_, fun e he _ =>
          ⟨hrest, by cases he; rfl⟩⟩
        rw [hrefused] at htrue
        cases htrue
    · rw [Program.Event.calls_append, Program.Event.calls_called_cons] at hrest
      simp at hrest

end HelperRuns

theorem helperRuns_runHelper {settings : Settings} {tasks : HelperTask → Prop} {task : HelperTask}
    {t : List Event} {r : Except Error Unit} (htask : tasks task)
    (h : Path (runHelper settings task) t r) : HelperRuns settings tasks t r := by
  rw [← List.append_nil t]
  cases r with
  | ok a => exact .succeeded htask h (.ended rfl)
  | error e => exact .failed htask h rfl

/-! ### Directory volumes -/

variable {settings : Settings} {request : ProvisionRequest} {t : List Event}

theorem always_findNode {P : List Event → Prop} (hP : Attempt.Composable P) {labels : TextMap}
    (hlist : ∀ r, P [.called (.listNodes labels) r]) : (findNode labels).Always P := by
  unfold findNode
  refine Attempt.always_bind hP (Attempt.always_callOr hlist) fun nodes => ?_
  split
  · exact Attempt.always_throw hP _
  · exact Attempt.always_pure hP _
  · exact Attempt.always_throw hP _

theorem sparesPods_findNode (labels : TextMap) : (findNode labels).Always SparesPods :=
  always_findNode composable_sparesPods (sparesPods_singleton rfl)

theorem helperRuns_applyQuota {tasks : HelperTask → Prop} {made : HelperTask} {grace : QuotaGrace}
    {r : Except Error Unit} (htask : ∀ op, tasks { made with operation := op })
    (h : Path (applyQuota settings request made grace) t r) : HelperRuns settings tasks t r := by
  unfold applyQuota at h
  rcases Attempt.path_check_bind_iff.1 h with ⟨e, -, rfl, rfl⟩ | ⟨limits, -, h₁⟩
  · exact .ended rfl
  obtain ⟨u, v, outcome, rfl, hrun, h₂⟩ := Attempt.path_outcome_bind_iff.1 h₁
  cases outcome with
  | ok a =>
    obtain ⟨rfl, rfl⟩ := Attempt.path_pure_iff.1 h₂
    exact .succeeded (htask _) hrun (.ended rfl)
  | error e =>
    obtain ⟨w, rfl, h₃⟩ := Attempt.path_warn_bind_iff.1 h₂
    obtain ⟨rfl, rfl⟩ := Attempt.path_throw_iff.1 h₃
    exact .failed (htask _) hrun rfl

/-- The task that makes the directory of a volume. -/
def initTask (request : ProvisionRequest) (affinity : TextMap) (path mode : String) : HelperTask where
  operation := .init mode
  volume := request.volume
  path
  nodeAffinity := affinity
  taints := (request.node.map (·.taints)).getD []

/-- Sets the quota on a directory, if there is to be one. -/
def applyQuota? (settings : Settings) (request : ProvisionRequest) (made : HelperTask) :
    Option QuotaGrace → Attempt Unit
  | none => pure ()
  | some grace => applyQuota settings request made grace

/-- The volume in a directory. -/
def volumeIn (request : ProvisionRequest) (plan : Plan) (affinity : TextMap) (path : String) :
    LocalVolume where
  name := request.volume
  backing := .hostPath path
  nodeAffinity := affinity
  capacity := request.storage?
  accessModes := request.accessModes
  reclaimPolicy := plan.reclaimPolicy
  volumeMode := filesystemMode
  storageClass := some plan.storageClass

theorem provision_eq {plan : Plan} : provision settings request plan = (do
    let affinity ← Attempt.check (request.affinityLabels plan.config.affinityLabels?)
    let path ← Attempt.check plan.config.path
    let mode ← Attempt.check plan.config.mode
    runHelper settings (initTask request affinity path mode)
    applyQuota? settings request (initTask request affinity path mode) plan.config.quotaGrace?
    return volumeIn request plan affinity path) := by
  unfold provision
  refine congrArg (_ >>= ·) (funext fun affinity => ?_)
  refine congrArg (_ >>= ·) (funext fun path => ?_)
  refine congrArg (_ >>= ·) (funext fun mode => ?_)
  refine congrArg (_ >>= ·) (funext fun _ => ?_)
  cases plan.config.quotaGrace? with
  | none => rfl
  | some grace => rfl

theorem helperRuns_applyQuota? {tasks : HelperTask → Prop} {made : HelperTask}
    {grace : Option QuotaGrace} {r : Except Error Unit}
    (htask : ∀ op, tasks { made with operation := op })
    (h : Path (applyQuota? settings request made grace) t r) : HelperRuns settings tasks t r := by
  cases grace with
  | none =>
    obtain ⟨rfl, -⟩ := Attempt.path_pure_iff.1 h
    exact .ended rfl
  | some grace => exact helperRuns_applyQuota htask h

/-- To make a volume, tasks for the volume are run on the node of the request. -/
theorem helperRuns_provision {plan : Plan} {r : Except Error LocalVolume}
    (h : Path (provision settings request plan) t r) :
    HelperRuns settings (fun task => task.volume = request.volume ∧
      ∃ keys, request.affinityLabels keys = .ok task.nodeAffinity) t r := by
  rw [provision_eq] at h
  rcases Attempt.path_check_bind_iff.1 h with ⟨e, -, rfl, rfl⟩ | ⟨affinity, haffinity, h₁⟩
  · exact .ended rfl
  rcases Attempt.path_check_bind_iff.1 h₁ with ⟨e, -, rfl, rfl⟩ | ⟨path, -, h₂⟩
  · exact .ended rfl
  rcases Attempt.path_check_bind_iff.1 h₂ with ⟨e, -, rfl, rfl⟩ | ⟨mode, -, h₃⟩
  · exact .ended rfl
  rcases Attempt.path_bind_iff.1 h₃ with ⟨e, hrun, rfl⟩ | ⟨u, v, _, rfl, hrun, h₄⟩
  · exact (helperRuns_runHelper ⟨rfl, _, haffinity⟩ hrun).withOutcome fun _ he => by cases he; rfl
  refine .succeeded ⟨rfl, _, haffinity⟩ hrun ?_
  rcases Attempt.path_bind_iff.1 h₄ with ⟨e, hquota, rfl⟩ | ⟨w, x, _, rfl, hquota, h₅⟩
  · exact (helperRuns_applyQuota? (fun _ => ⟨rfl, _, haffinity⟩) hquota).withOutcome
      fun _ he => by cases he; rfl
  · obtain ⟨rfl, rfl⟩ := Attempt.path_pure_iff.1 h₅
    have hruns : HelperRuns settings (fun task => task.volume = request.volume ∧
        ∃ keys, request.affinityLabels keys = .ok task.nodeAffinity) w (.ok ()) :=
      helperRuns_applyQuota? (fun _ => ⟨rfl, _, haffinity⟩) hquota
    exact (hruns.append rfl).withOutcome fun _ he => by cases he

theorem sparesClaims_provision {plan : Plan} : (provision settings request plan).Always SparesClaims :=
  fun _ _ h => (helperRuns_provision h).always composable_sparesClaims fun _ r hpod =>
    sparesClaims_singleton (Call.isOnClaim_of_isOnPod hpod) r

theorem path_provision_ok {plan : Plan} {made : LocalVolume}
    (h : Path (provision settings request plan) t (.ok made)) :
    ∃ affinity path mode u v, request.affinityLabels plan.config.affinityLabels? = .ok affinity ∧
      plan.config.path = .ok path ∧ plan.config.mode = .ok mode ∧ t = u ++ v ∧
      Path (runHelper settings (initTask request affinity path mode)) u (.ok ()) ∧
      Path (applyQuota? settings request (initTask request affinity path mode) plan.config.quotaGrace?)
        v (.ok ()) ∧
      made = volumeIn request plan affinity path := by
  rw [provision_eq] at h
  rcases Attempt.path_check_bind_iff.1 h with ⟨e, -, -, he⟩ | ⟨affinity, haffinity, h₁⟩
  · cases he
  rcases Attempt.path_check_bind_iff.1 h₁ with ⟨e, -, -, he⟩ | ⟨path, hpath, h₂⟩
  · cases he
  rcases Attempt.path_check_bind_iff.1 h₂ with ⟨e, -, -, he⟩ | ⟨mode, hmode, h₃⟩
  · cases he
  rcases Attempt.path_bind_iff.1 h₃ with ⟨e, -, he⟩ | ⟨u, v, _, rfl, hrun, h₄⟩
  · cases he
  rcases Attempt.path_bind_iff.1 h₄ with ⟨e, -, he⟩ | ⟨w, x, _, rfl, hquota, h₅⟩
  · cases he
  obtain ⟨rfl, hr⟩ := Attempt.path_pure_iff.1 h₅
  cases hr
  rw [List.append_nil]
  exact ⟨affinity, path, mode, u, w, haffinity, hpath, hmode, rfl, hrun, hquota, rfl⟩

theorem provision_eq_ok {plan : Plan} {made : LocalVolume}
    (h : Path (provision settings request plan) t (.ok made)) : made.backing.kind = .hostPath := by
  obtain ⟨_, _, _, _, _, -, -, -, -, -, -, rfl⟩ := path_provision_ok h
  rfl

/-- The task that removes the directory of a volume. -/
def cleanupTask (record : VolumeRecord) (path : String) (node : Node) : HelperTask where
  operation := .cleanup
  volume := record.name
  path
  nodeAffinity := record.nodeAffinity
  taints := node.taints

/-- Removes a path from the only node with the labels on record. -/
def removePath (settings : Settings) (record : VolumeRecord) (path : String) : Attempt Unit := do
  let node ← findNode record.nodeAffinity
  runHelper settings (cleanupTask record path node)

theorem delete_eq {record : VolumeRecord} : delete settings record =
    match record.path with
    | none => throw (.invalidRequest ("no HostPath set on " ++ record.name))
    | some path =>
      if record.nodeAffinity.isEmpty then
        throw (.invalidRequest ("cannot find affinited node details on " ++ record.name))
      else removePath settings record path := by
  unfold delete
  cases record.path with
  | none => rfl
  | some path =>
    cases record.nodeAffinity.isEmpty with
    | true => rfl
    | false => rfl

theorem always_delete {P : List Event → Prop} (hP : Attempt.Composable P) {record : VolumeRecord}
    (hlist : ∀ labels r, P [.called (.listNodes labels) r])
    (hpod : ∀ c r, c.isOnPod = true → P [.called c r]) : (delete settings record).Always P := by
  rw [delete_eq]
  split
  · exact Attempt.always_throw hP _
  · split
    · exact Attempt.always_throw hP _
    · refine Attempt.always_bind hP (always_findNode hP (hlist _)) fun node => ?_
      exact always_runHelper hP (fun _ _ _ => hpod _ _ rfl) (fun _ => hpod _ _ rfl) fun _ =>
        hpod _ _ rfl

theorem path_delete_ok {record : VolumeRecord} (h : Path (delete settings record) t (.ok ())) :
    ∃ path node u v, record.path = some path ∧ t = u ++ v ∧
      Path (findNode record.nodeAffinity) u (.ok node) ∧
      Path (runHelper settings (cleanupTask record path node)) v (.ok ()) := by
  rw [delete_eq] at h
  split at h
  case h_1 => cases (Attempt.path_throw_iff.1 h).2
  case h_2 path hpath =>
    split at h
    · cases (Attempt.path_throw_iff.1 h).2
    · rcases Attempt.path_bind_iff.1 h with ⟨e, -, he⟩ | ⟨u, v, node, rfl, hfind, hrun⟩
      · cases he
      · exact ⟨path, node, u, v, hpath, rfl, hfind, hrun⟩

theorem sparesClaims_delete {record : VolumeRecord} : (delete settings record).Always SparesClaims :=
  always_delete composable_sparesClaims (fun _ => sparesClaims_singleton rfl) fun _ r hpod =>
    sparesClaims_singleton (Call.isOnClaim_of_isOnPod hpod) r

/-- To remove a volume, a task for the path on record is run on the node on record. -/
theorem helperRuns_delete {record : VolumeRecord} {r : Except Error Unit}
    (h : Path (delete settings record) t r) :
    ∃ u v, t = u ++ v ∧ SparesPods u ∧
      HelperRuns settings (fun task => task.volume = record.name ∧ record.path = some task.path ∧
        task.nodeAffinity = record.nodeAffinity) v r := by
  rw [delete_eq] at h
  split at h
  case h_1 =>
    obtain ⟨rfl, rfl⟩ := Attempt.path_throw_iff.1 h
    exact ⟨[], [], rfl, composable_sparesPods.nil, .ended rfl⟩
  case h_2 path hpath =>
    split at h
    · obtain ⟨rfl, rfl⟩ := Attempt.path_throw_iff.1 h
      exact ⟨[], [], rfl, composable_sparesPods.nil, .ended rfl⟩
    · rcases Attempt.path_bind_iff.1 h with ⟨e, hfind, rfl⟩ | ⟨u, v, node, rfl, hfind, hrun⟩
      · exact ⟨_, [], (List.append_nil _).symm, sparesPods_findNode _ _ _ hfind, .ended rfl⟩
      · exact ⟨u, v, rfl, sparesPods_findNode _ _ _ hfind,
          helperRuns_runHelper ⟨rfl, hpath, rfl⟩ hrun⟩

end NodeVolumes.HostPath
