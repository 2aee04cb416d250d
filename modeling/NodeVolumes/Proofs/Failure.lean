import NodeVolumes.Proofs.Engine
import NodeVolumes.Proofs.HostPath.Quota

/-! # Causes of failure

Where the errors of a provision call come from. A request and its configuration are judged before anything
is made; once something is being made, a call only fails by what the cluster answers, by waiting for it,
and by the limits of a quota.

* `Error.isOfPlan`, `Error.isOfQuota` and `Error.isOfWork`: the errors of the three parts.
* `HostPath.exists_quotaPod`: where a pod can be built for a directory, one can be built for its quota.
* `FailedBy`: the ways in which a provision call fails; `failedBy_of_path` says that there are no others.
* `calls_of_failed_provision`: what has been done when the plan or the quota is at fault. -/

namespace NodeVolumes

open Cluster (Call Event)
open Program.Event (calls)
open Attempt (Path)

/-! ### Errors by their causes -/

namespace Error

/-- Tells the errors that the cluster answers with. -/
def isOfCluster : Error → Bool
  | api _ | internal _ | resourceNotFound .. | resourceExists .. => true
  | _ => false

/-- Tells the errors that come of the cluster's answers or of waiting for them. -/
def isOfWork : Error → Bool
  | helperTimeout .. | helperFailed .. | cancelled _ | noBlockDeviceFound .. | blockDeviceClaim .. => true
  | e => e.isOfCluster

/-- Tells the errors that lie with the plan for a volume: its node, its configuration and its paths. -/
def isOfPlan : Error → Bool
  | noSelectedNode | invalidConfigLayer .. | deprecatedOption .. | unsupportedStorageType _
  | configuration _ | unsafePath .. | invalidHelperOptions _ => true
  | _ => false

/-- Tells the errors that lie with the quota of a volume. -/
def isOfQuota : Error → Bool
  | capacityParse _ | invalidQuotaFormat _ | quotaLimitOrder .. => true
  | _ => false

theorem isOfWork_of_isOfCluster {e : Error} (h : e.isOfCluster = true) : e.isOfWork = true := by
  cases e <;> simp_all [isOfCluster, isOfWork]

theorem isOfPlan_eq_false_of_isOfWork {e : Error} (h : e.isOfWork = true) : e.isOfPlan = false := by
  cases e <;> simp_all [isOfCluster, isOfWork, isOfPlan]

theorem isOfQuota_eq_false_of_isOfWork {e : Error} (h : e.isOfWork = true) : e.isOfQuota = false := by
  cases e <;> simp_all [isOfCluster, isOfWork, isOfQuota]

theorem isRetryable_of_isOfWork {e : Error} (h : e.isOfWork = true) : e.isRetryable = true := by
  cases e <;> simp_all [isOfCluster, isOfWork, isRetryable]

end Error

/-- The error of a call that has failed. -/
def failure? : Event → Option Error
  | .called _ (.error e) => some e
  | _ => none

/-- Every call that fails does so with an error of the cluster. -/
def FailsAsCluster (t : List Event) : Prop := ∀ e ∈ t.filterMap failure?, e.isOfCluster = true

instance (t : List Event) : Decidable (FailsAsCluster t) :=
  inferInstanceAs (Decidable (∀ e ∈ t.filterMap failure?, e.isOfCluster = true))

section
variable {t u : List Event} {e : Error}

theorem failsAsCluster_append : FailsAsCluster (t ++ u) ↔ FailsAsCluster t ∧ FailsAsCluster u := by
  unfold FailsAsCluster
  rw [List.filterMap_append, List.forall_mem_append]

theorem FailsAsCluster.tail {event : Event} (h : FailsAsCluster (event :: t)) : FailsAsCluster t :=
  (failsAsCluster_append.1 (show FailsAsCluster ([event] ++ t) from h)).2

theorem FailsAsCluster.isOfWork {c : Call} (h : FailsAsCluster (.called c (.error e) :: t)) :
    e.isOfWork = true :=
  Error.isOfWork_of_isOfCluster (h e (List.mem_filterMap.2 ⟨_, List.mem_cons_self .., rfl⟩))

end

section
variable {settings : Settings} {t : List Event} {e : Error}

/-! ### Helper pods -/

namespace HostPath

variable {task : HelperTask} {request : ProvisionRequest} {plan : Plan}

theorem isOfWork_of_awaitPod {name : String} {left : Nat}
    (h : Path (awaitPod settings name left) t (.error e)) (hcluster : FailsAsCluster t) :
    e.isOfWork = true := by
  induction left generalizing t with
  | zero =>
    obtain ⟨-, he⟩ := Attempt.path_throw_iff.1 h
    cases he
    rfl
  | succ left ih =>
    unfold awaitPod at h
    rcases Attempt.path_call_bind_iff.1 h with ⟨e', rfl, he⟩ | ⟨pod, u, rfl, h₁⟩
    · cases he
      exact hcluster.isOfWork
    · split at h₁
      case h_1 => cases (Attempt.path_pure_iff.1 h₁).2
      case h_2 =>
        cases (Attempt.path_throw_iff.1 h₁).2
        rfl
      case h_3 =>
        rcases Attempt.path_waitOr_bind_iff.1 h₁ with ⟨-, he⟩ | ⟨v, rfl, h₂⟩
        · cases he
          rfl
        · exact ih h₂ hcluster.tail.tail

theorem runHelper_eq_error (h : Path (runHelper settings task) t (.error e))
    (hcluster : FailsAsCluster t) :
    (task.pod settings = .error e ∧ t = []) ∨ e.isOfWork = true := by
  generalize hr : (Except.error e : Except Error Unit) = r at h
  cases runShape_of_path h with
  | refused hpod =>
    cases hr
    exact .inl ⟨hpod, rfl⟩
  | rejected _ _ =>
    cases hr
    exact .inr hcluster.isOfWork
  | ran _ _ hawait _ =>
    subst hr
    exact .inr (isOfWork_of_awaitPod hawait (failsAsCluster_append.1 hcluster.tail).1)

theorem calls_of_runHelper (h : Path (runHelper settings task) t (.ok ())) :
    ∃ pod looks, task.pod settings = .ok pod ∧
      calls t = .createPod settings.ns pod :: (List.replicate looks (.getPod settings.ns task.podName) ++
        [.deletePod settings.ns task.podName]) := by
  generalize hr : (Except.ok () : Except Error Unit) = r at h
  cases runShape_of_path h with
  | refused _ => cases hr
  | rejected _ _ => cases hr
  | @ran pod _ _ told _ _ hpod _ hawait htold =>
    obtain ⟨looks, -, hlooks⟩ := calls_awaitPod hawait
    refine ⟨pod, looks, hpod, ?_⟩
    rw [Program.Event.calls_called_cons, Program.Event.calls_append, hlooks,
      Program.Event.calls_called_cons, htold]

/-! ### Quotas -/

/-- Where a pod can be built for a directory, one can be built for its quota: both cut the same path, and the
limits that the arithmetic yields fit into a command. -/
theorem exists_quotaPod {pod : Pod} {grace : QuotaGrace} {limits : QuotaLimits}
    (hpod : task.pod settings = .ok pod) (hlimits : quotaLimits request grace = .ok limits) :
    ∃ quotaPod, HelperTask.pod { task with operation := .quota limits } settings = .ok quotaPod := by
  obtain ⟨hcheck, parent, leaf, command, hsplit, hcommand⟩ := HelperTask.exists_pod_iff.1 ⟨pod, hpod⟩
  have hleaf : isSafeName leaf = true := (namedDirs_command hcommand).1
  have hformed : limits.isWellFormed = true := isWellFormed_of_quotaLimits hlimits
  have hscript : (HelperOperation.quota limits).command leaf =
      .ok ["sh", "-c", quotaScript (dataMount ++ leaf) limits] :=
    command_quota_eq_ok_iff.2 ⟨hleaf, hformed, rfl⟩
  exact HelperTask.exists_pod_iff.2 ⟨hcheck, parent, leaf, _, hsplit, hscript⟩

/-- Setting a quota on a directory that has been made fails by the limits, before anything is done, or by the
work of the pod. -/
theorem applyQuota_eq_error {pod : Pod} {grace : QuotaGrace} (hpod : task.pod settings = .ok pod)
    (h : Path (applyQuota settings request task grace) t (.error e)) (hcluster : FailsAsCluster t) :
    (quotaLimits request grace = .error e ∧ t = []) ∨ e.isOfWork = true := by
  unfold applyQuota at h
  rcases Attempt.path_check_bind_iff.1 h with ⟨e', hlimits, rfl, he⟩ | ⟨limits, hlimits, h₁⟩
  · cases he
    exact .inl ⟨hlimits, rfl⟩
  obtain ⟨u, v, result, rfl, hrun, h₂⟩ := Attempt.path_outcome_bind_iff.1 h₁
  cases result with
  | ok a => cases (Attempt.path_pure_iff.1 h₂).2
  | error e' =>
    obtain ⟨w, rfl, h₃⟩ := Attempt.path_warn_bind_iff.1 h₂
    cases (Attempt.path_throw_iff.1 h₃).2
    rcases runHelper_eq_error hrun (failsAsCluster_append.1 hcluster).1 with ⟨hrefused, -⟩ | hwork
    · obtain ⟨quotaPod, hquota⟩ := exists_quotaPod hpod hlimits
      rw [hquota] at hrefused
      cases hrefused
    · exact .inr hwork

/-- The task that makes the directory of a volume, if a pod can be built for it. -/
def plannedTask (settings : Settings) (request : ProvisionRequest) (plan : Plan) :
    Except Error HelperTask := do
  let affinity ← request.affinityLabels plan.config.affinityLabels?
  let path ← plan.config.path
  let mode ← plan.config.mode
  let _ ← (initTask request affinity path mode).pod settings
  return initTask request affinity path mode

/-- Whether there are limits for the quota of a volume, if it is to have one. -/
def checkLimits (request : ProvisionRequest) (plan : Plan) : Except Error Unit :=
  match plan.config.quotaGrace? with
  | none => .ok ()
  | some grace => do
    let _ ← quotaLimits request grace
    return ()

theorem plannedTask_eq_ok (h : plannedTask settings request plan = .ok task) :
    ∃ affinity path mode, request.affinityLabels plan.config.affinityLabels? = .ok affinity ∧
      plan.config.path = .ok path ∧ plan.config.mode = .ok mode ∧
      (∃ pod, task.pod settings = .ok pod) ∧ task = initTask request affinity path mode := by
  unfold plannedTask at h
  obtain ⟨affinity, haffinity, h₁⟩ := except_bind_eq_ok_iff.1 h
  obtain ⟨path, hpath, h₂⟩ := except_bind_eq_ok_iff.1 h₁
  obtain ⟨mode, hmode, h₃⟩ := except_bind_eq_ok_iff.1 h₂
  obtain ⟨pod, hpod, h₄⟩ := except_bind_eq_ok_iff.1 h₃
  cases h₄
  exact ⟨affinity, path, mode, haffinity, hpath, hmode, ⟨pod, hpod⟩, rfl⟩

theorem plannedTask_of_parts {affinity : TextMap} {path mode : String}
    (haffinity : request.affinityLabels plan.config.affinityLabels? = .ok affinity)
    (hpath : plan.config.path = .ok path) (hmode : plan.config.mode = .ok mode) :
    plannedTask settings request plan =
      ((initTask request affinity path mode).pod settings).map fun _ =>
        initTask request affinity path mode := by
  unfold plannedTask
  rw [haffinity, hpath, hmode]
  show ((initTask request affinity path mode).pod settings >>= _) = _
  cases (initTask request affinity path mode).pod settings with
  | ok pod => rfl
  | error e => rfl

/-- A volume in a directory is not made for want of a task, by work, or for want of limits when its
directory has been made. -/
theorem provision_eq_error (h : Path (provision settings request plan) t (.error e))
    (hcluster : FailsAsCluster t) :
    (plannedTask settings request plan = .error e ∧ t = []) ∨ e.isOfWork = true ∨
      ∃ task, plannedTask settings request plan = .ok task ∧ checkLimits request plan = .error e ∧
        Path (runHelper settings task) t (.ok ()) := by
  rw [provision_eq] at h
  rcases Attempt.path_check_bind_iff.1 h with ⟨e', haffinity, rfl, he⟩ | ⟨affinity, haffinity, h₁⟩
  · cases he
    exact .inl ⟨except_bind_eq_error_iff.2 (.inl haffinity), rfl⟩
  rcases Attempt.path_check_bind_iff.1 h₁ with ⟨e', hpath, rfl, he⟩ | ⟨path, hpath, h₂⟩
  · cases he
    refine .inl ⟨except_bind_eq_error_iff.2 (.inr ⟨affinity, haffinity, ?_⟩), rfl⟩
    exact except_bind_eq_error_iff.2 (.inl hpath)
  rcases Attempt.path_check_bind_iff.1 h₂ with ⟨e', hmode, rfl, he⟩ | ⟨mode, hmode, h₃⟩
  · cases he
    refine .inl ⟨except_bind_eq_error_iff.2 (.inr ⟨affinity, haffinity, ?_⟩), rfl⟩
    refine except_bind_eq_error_iff.2 (.inr ⟨path, hpath, ?_⟩)
    exact except_bind_eq_error_iff.2 (.inl hmode)
  rw [plannedTask_of_parts haffinity hpath hmode]
  rcases Attempt.path_bind_iff.1 h₃ with ⟨e', hrun, he⟩ | ⟨u, v, _, rfl, hrun, h₄⟩
  · cases he
    rcases runHelper_eq_error hrun hcluster with ⟨hpod, rfl⟩ | hwork
    · rw [hpod]
      exact .inl ⟨rfl, rfl⟩
    · exact .inr (.inl hwork)
  obtain ⟨pod, -, hpod, -⟩ := calls_of_runHelper hrun
  refine .inr ?_
  rcases Attempt.path_bind_iff.1 h₄ with ⟨e', hquota, he⟩ | ⟨w, x, _, rfl, -, h₅⟩
  · cases he
    unfold checkLimits
    cases hgrace : plan.config.quotaGrace? with
    | none =>
      rw [hgrace] at hquota
      cases (Attempt.path_pure_iff.1 hquota).2
    | some grace =>
      rw [hgrace] at hquota
      rcases applyQuota_eq_error hpod hquota (failsAsCluster_append.1 hcluster).2 with ⟨hlimits, rfl⟩ | hwork
      · rw [List.append_nil, hpod]
        exact .inr ⟨_, rfl, except_bind_eq_error_iff.2 (.inl hlimits), hrun⟩
      · exact .inl hwork
  · cases (Attempt.path_pure_iff.1 h₅).2

theorem planned_of_provision {made : LocalVolume}
    (h : Path (provision settings request plan) t (.ok made)) :
    (∃ task, plannedTask settings request plan = .ok task) ∧ checkLimits request plan = .ok () := by
  obtain ⟨affinity, path, mode, u, v, haffinity, hpath, hmode, -, hrun, hquota, -⟩ := path_provision_ok h
  obtain ⟨pod, -, hpod, -⟩ := calls_of_runHelper hrun
  constructor
  · rw [plannedTask_of_parts haffinity hpath hmode, hpod]
    exact ⟨_, rfl⟩
  · unfold checkLimits
    split
    · rfl
    case h_2 grace hgrace =>
      rw [hgrace] at hquota
      rcases Attempt.path_check_bind_iff.1 hquota with ⟨e, -, -, he⟩ | ⟨limits, hlimits, -⟩
      · cases he
      · exact except_bind_eq_ok_iff.2 ⟨limits, hlimits, rfl⟩

end HostPath

/-! ### Devices -/

namespace Device

variable {request : DeviceRequest} {claim volume : String}

theorem ensure_eq_error (h : Path (ensure settings request) t (.error e)) (hcluster : FailsAsCluster t) :
    (request.check = .error e ∧ t = []) ∨ e.isOfWork = true := by
  rw [ensure_eq] at h
  rcases Attempt.path_check_bind_iff.1 h with ⟨e', hcheck, rfl, he⟩ | ⟨_, -, h₁⟩
  · cases he
    exact .inl ⟨hcheck, rfl⟩
  refine .inr ?_
  obtain ⟨found, u, rfl, h₂⟩ := Attempt.path_reply_bind_iff.1 h₁
  split at h₂
  · cases (Attempt.path_pure_iff.1 h₂).2
  · split at h₂
    · unfold make at h₂
      obtain ⟨made, v, rfl, h₃⟩ := Attempt.path_reply_bind_iff.1 h₂
      split at h₃
      · cases (Attempt.path_pure_iff.1 h₃).2
      · cases (Attempt.path_pure_iff.1 h₃).2
      · cases (Attempt.path_throw_iff.1 h₃).2
        rfl
    · cases (Attempt.path_throw_iff.1 h₂).2
      exact hcluster.isOfWork

theorem not_path_abandon_error : ¬Path (abandon settings claim volume) t (.error e) := by
  intro h
  unfold abandon at h
  obtain ⟨u, rfl, h₁⟩ := Attempt.path_warn_bind_iff.1 h
  obtain ⟨v, w, result, rfl, -, h₂⟩ := Attempt.path_outcome_bind_iff.1 h₁
  cases result with
  | ok a => cases (Attempt.path_pure_iff.1 h₂).2
  | error e' => cases (Attempt.path_warn_iff.1 h₂).2

theorem isOfWork_of_awaitDevice {left : Nat}
    (h : Path (awaitDevice settings claim volume left) t (.error e)) : e.isOfWork = true := by
  induction left generalizing t with
  | zero =>
    rcases Attempt.path_bind_iff.1 h with ⟨e', habandon, he⟩ | ⟨u, v, _, rfl, -, hthrow⟩
    · cases he
      exact absurd habandon not_path_abandon_error
    · cases (Attempt.path_throw_iff.1 hthrow).2
      rfl
  | succ left ih =>
    unfold awaitDevice at h
    rcases Attempt.path_callOr_bind_iff.1 h with ⟨e', -, he⟩ | ⟨current, u, rfl, h₁⟩
    · cases he
      rfl
    · split at h₁
      · cases (Attempt.path_pure_iff.1 h₁).2
      · rcases Attempt.path_waitOr_bind_iff.1 h₁ with ⟨-, he⟩ | ⟨v, rfl, h₂⟩
        · cases he
          rfl
        · exact ih h₂

theorem bind_eq_error (h : Path (bind settings request) t (.error e)) (hcluster : FailsAsCluster t) :
    (request.check = .error e ∧ t = []) ∨ e.isOfWork = true := by
  unfold bind at h
  rcases Attempt.path_bind_iff.1 h with ⟨e', hensure, he⟩ | ⟨u, v, name, rfl, -, h₁⟩
  · cases he
    exact ensure_eq_error hensure hcluster
  refine .inr ?_
  rcases Attempt.path_bind_iff.1 h₁ with ⟨e', hawait, he⟩ | ⟨v, w, device, rfl, -, h₂⟩
  · cases he
    exact isOfWork_of_awaitDevice hawait
  · rcases Attempt.path_callOr_bind_iff.1 h₂ with ⟨e', -, he⟩ | ⟨device, w, rfl, h₃⟩
    · cases he
      rfl
    · cases (Attempt.path_pure_iff.1 h₃).2

section
variable {request : ProvisionRequest} {plan : Plan}

/-- Refuses a node without a host name. -/
def checkHost (request : ProvisionRequest) : Except Error Unit :=
  if request.hostname = "" then
    .error (.invalidRequest ("selected node for " ++ request.volume ++ " has no hostname label"))
  else .ok ()

/-- What a volume needs of a device, if its node has a host name and the volume a name. -/
def plannedRequest (request : ProvisionRequest) (plan : Plan) : Except Error DeviceRequest := do
  let affinity ← request.affinityLabels plan.config.affinityLabels?
  checkHost request
  (deviceRequest request plan.config affinity).check
  return deviceRequest request plan.config affinity

theorem provision_eq_error (h : Path (provision settings request plan) t (.error e))
    (hcluster : FailsAsCluster t) :
    (plannedRequest request plan = .error e ∧ t = []) ∨ e.isOfWork = true := by
  rw [provision_eq] at h
  rcases Attempt.path_check_bind_iff.1 h with ⟨e', haffinity, rfl, he⟩ | ⟨affinity, haffinity, h₁⟩
  · cases he
    exact .inl ⟨except_bind_eq_error_iff.2 (.inl haffinity), rfl⟩
  split at h₁
  case isTrue hhost =>
    obtain ⟨rfl, he⟩ := Attempt.path_throw_iff.1 h₁
    cases he
    refine .inl ⟨except_bind_eq_error_iff.2 (.inr ⟨affinity, haffinity, ?_⟩), rfl⟩
    exact except_bind_eq_error_iff.2 (.inl (if_pos hhost))
  case isFalse hhost =>
    rcases Attempt.path_bind_iff.1 h₁ with ⟨e', hbind, he⟩ | ⟨u, v, bound, rfl, -, h₂⟩
    · cases he
      rcases bind_eq_error hbind hcluster with ⟨hcheck, rfl⟩ | hwork
      · refine .inl ⟨except_bind_eq_error_iff.2 (.inr ⟨affinity, haffinity, ?_⟩), rfl⟩
        refine except_bind_eq_error_iff.2 (.inr ⟨(), if_neg hhost, ?_⟩)
        exact except_bind_eq_error_iff.2 (.inl hcheck)
      · exact .inr hwork
    · cases (Attempt.path_pure_iff.1 h₂).2

theorem planned_of_provision {made : LocalVolume}
    (h : Path (provision settings request plan) t (.ok made)) :
    ∃ wanted, plannedRequest request plan = .ok wanted := by
  obtain ⟨affinity, bound, haffinity, hhost, hbind, -⟩ := path_provision_ok h
  refine ⟨deviceRequest request plan.config affinity, ?_⟩
  refine except_bind_eq_ok_iff.2 ⟨affinity, haffinity, ?_⟩
  refine except_bind_eq_ok_iff.2 ⟨(), if_neg hhost, ?_⟩
  refine except_bind_eq_ok_iff.2 ⟨(), ?_, rfl⟩
  -- the request is checked at the start of every binding
  rcases path_bind hbind with ⟨e, -, he⟩ | ⟨u, v, -, hensure, -⟩
  · cases he
  · rw [ensure_eq] at hensure
    rcases Attempt.path_check_bind_iff.1 hensure with ⟨e, -, -, he⟩ | ⟨_, hcheck, -⟩
    · cases he
    · exact hcheck

end

end Device

/-! ### Plans -/

variable {request : ProvisionRequest} {cls : StorageClass}

/-- The name of the storage class of a request that can be served at all. -/
def ProvisionRequest.checkedClass (request : ProvisionRequest) : Except Error String := do
  request.check
  match request.storageClass? with
  | none => throw (.invalidRequest ("storage class name missing on claim " ++ request.claimName))
  | some name => return name

namespace Plan

/-- What the plan needs of a node can be asked for. -/
def checkNeeds (plan : Plan) (settings : Settings) (request : ProvisionRequest) : Except Error Unit :=
  match plan.kind with
  | .hostPath => do
    let _ ← HostPath.plannedTask settings request plan
    return ()
  | .device => do
    let _ ← Device.plannedRequest request plan
    return ()

/-- The limits of the quota can be made out; devices have none. -/
def checkLimits (plan : Plan) (request : ProvisionRequest) : Except Error Unit :=
  match plan.kind with
  | .hostPath => HostPath.checkLimits request plan
  | .device => .ok ()

end Plan

theorem storageClass?_of_checkedClass {name : String} (h : request.checkedClass = .ok name) :
    request.storageClass? = some name := by
  obtain ⟨_, -, hname⟩ := except_bind_eq_ok_iff.1 h
  split at hname
  · cases hname
  case h_2 found hfound =>
    cases hname
    exact hfound

/-- The plan for a volume, if what it needs can be asked for. -/
def prepare (settings : Settings) (request : ProvisionRequest) (cls : StorageClass) :
    Except Error Plan := do
  let plan ← planFor settings request cls
  plan.checkNeeds settings request
  return plan

theorem prepare_of_planFor {plan : Plan} (h : planFor settings request cls = .ok plan) :
    prepare settings request cls = (plan.checkNeeds settings request).map fun _ => plan := by
  unfold prepare
  rw [h]
  show (plan.checkNeeds settings request >>= _) = _
  cases plan.checkNeeds settings request with
  | ok _ => rfl
  | error e => rfl

theorem prepare_eq_error_of_planFor (h : planFor settings request cls = .error e) :
    prepare settings request cls = .error e := by
  unfold prepare
  rw [h]
  rfl

theorem planVolume_eq : planVolume settings request = (do
    let name ← Attempt.check request.checkedClass
    let cls ← Attempt.call (.getStorageClass name)
    Attempt.check (planFor settings request cls)) := by
  unfold planVolume ProvisionRequest.checkedClass
  cases request.check with
  | error e => rfl
  | ok _ =>
    cases request.storageClass? with
    | none => rfl
    | some name => rfl

/-! ### Refusals -/

/-- The failures of a check do not lie with a quota. -/
abbrev SparesQuota {α : Type} (x : Except Error α) : Prop := FailsOnly (fun e => e.isOfQuota = false) x

/-- The failures of a check do not lie with a plan. -/
abbrev SparesPlan {α : Type} (x : Except Error α) : Prop := FailsOnly (fun e => e.isOfPlan = false) x

theorem sparesQuota_checkedClass : SparesQuota request.checkedClass := by
  have hclaim : SparesQuota request.checkClaim := by
    unfold ProvisionRequest.checkClaim
    split
    · exact failsOnly_error rfl
    · split
      · exact failsOnly_error rfl
      · exact failsOnly_ite (failsOnly_error rfl) (failsOnly_ite (failsOnly_error rfl) (failsOnly_ok _))
  have hnode : SparesQuota request.checkNode := by
    unfold ProvisionRequest.checkNode
    split
    · exact failsOnly_error rfl
    · exact failsOnly_ite (failsOnly_error rfl) (failsOnly_ok _)
  refine failsOnly_bind (failsOnly_bind hclaim fun _ => hnode) fun _ => ?_
  split
  · exact failsOnly_error rfl
  · exact failsOnly_ok _

theorem sparesQuota_readLayer (layer raw : String) : SparesQuota (readLayer layer raw) := by
  unfold readLayer
  refine failsOnly_ite (failsOnly_ok _) ?_
  split
  · exact failsOnly_error rfl
  · exact failsOnly_ite (failsOnly_error rfl) (failsOnly_ok _)

theorem sparesQuota_planFor : SparesQuota (planFor settings request cls) := by
  have hconfig : SparesQuota (VolumeConfig.resolve request.volume settings.defaultLayer
      (configLayer cls.metadata) (configLayer request.claim.metadata)) := by
    unfold VolumeConfig.resolve
    refine failsOnly_bind (sparesQuota_readLayer _ _) fun _ => ?_
    refine failsOnly_bind (sparesQuota_readLayer _ _) fun _ => ?_
    refine failsOnly_bind ?_ fun _ => failsOnly_ok _
    unfold VolumeConfig.rejectDeprecated
    split
    · exact failsOnly_error rfl
    · exact failsOnly_ok _
  have hkind (config : VolumeConfig) : SparesQuota (chooseKind request config) := by
    unfold chooseKind VolumeConfig.storageKind StorageKind.ofName
    refine failsOnly_ite (failsOnly_ok _) (failsOnly_ite (failsOnly_error rfl) ?_)
    exact failsOnly_ite (failsOnly_ok _) (failsOnly_ite (failsOnly_ok _) (failsOnly_error rfl))
  exact failsOnly_bind hconfig fun config => failsOnly_bind (hkind config) fun _ => failsOnly_ok _

theorem sparesQuota_affinityLabels (keys : Option (List String)) :
    SparesQuota (request.affinityLabels keys) := by
  unfold ProvisionRequest.affinityLabels
  split
  · exact failsOnly_error rfl
  · exact failsOnly_ok _

theorem sparesQuota_checkedSteps (path : String) : SparesQuota (HostPath.checkedSteps path) :=
  failsOnly_ite (failsOnly_error rfl) (failsOnly_ite (failsOnly_error rfl) (failsOnly_ok _))

theorem sparesQuota_checkDepth (path : String) (steps : List String) :
    SparesQuota (HostPath.checkDepth path steps) := by
  unfold HostPath.checkDepth
  split
  · exact failsOnly_error rfl
  · exact failsOnly_error rfl
  · exact failsOnly_ok _

theorem sparesQuota_path (config : VolumeConfig) : SparesQuota config.path := by
  unfold VolumeConfig.path
  split
  · exact failsOnly_error rfl
  · refine failsOnly_bind (sparesQuota_checkedSteps _) fun _ => ?_
    exact failsOnly_bind (sparesQuota_checkDepth _ _) fun _ => failsOnly_ok _

theorem sparesQuota_mode (config : VolumeConfig) : SparesQuota config.mode :=
  failsOnly_ite (failsOnly_ok _) (failsOnly_ite (failsOnly_ok _) (failsOnly_error rfl))

theorem sparesQuota_pod (task : HostPath.HelperTask) : SparesQuota (task.pod settings) := by
  have hsplit : SparesQuota (HostPath.splitForMount task.path) := by
    refine failsOnly_bind (sparesQuota_checkedSteps _) fun _ => ?_
    refine failsOnly_bind (sparesQuota_checkDepth _ _) fun _ => ?_
    split
    · exact failsOnly_error rfl
    · exact failsOnly_ite (failsOnly_ok _) (failsOnly_error rfl)
  have hcommand (leaf : String) : SparesQuota (task.operation.command leaf) := by
    refine failsOnly_ite (failsOnly_error rfl) ?_
    cases task.operation with
    | init mode => exact failsOnly_ite (failsOnly_ok _) (failsOnly_error rfl)
    | quota limits => exact failsOnly_ite (failsOnly_ok _) (failsOnly_error rfl)
    | cleanup => exact failsOnly_ok _
  have hcheck : SparesQuota (task.check settings) :=
    failsOnly_ite (failsOnly_error rfl) (failsOnly_ok _)
  refine failsOnly_bind hcheck fun _ => failsOnly_bind hsplit fun cut => ?_
  exact failsOnly_bind (hcommand cut.2) fun _ => failsOnly_ok _

/-- Nothing that is decided before the first pod lies with a quota. -/
theorem sparesQuota_prepare : SparesQuota (prepare settings request cls) := by
  refine failsOnly_bind sparesQuota_planFor fun plan => failsOnly_bind ?_ fun _ => failsOnly_ok _
  unfold Plan.checkNeeds
  split
  · refine failsOnly_bind ?_ fun _ => failsOnly_ok _
    refine failsOnly_bind (sparesQuota_affinityLabels _) fun affinity => ?_
    refine failsOnly_bind (sparesQuota_path _) fun path => ?_
    refine failsOnly_bind (sparesQuota_mode _) fun mode => ?_
    exact failsOnly_bind (sparesQuota_pod _) fun _ => failsOnly_ok _
  · refine failsOnly_bind ?_ fun _ => failsOnly_ok _
    refine failsOnly_bind (sparesQuota_affinityLabels _) fun affinity => ?_
    refine failsOnly_bind (failsOnly_ite (failsOnly_error rfl) (failsOnly_ok _)) fun _ => ?_
    exact failsOnly_bind (failsOnly_ite (failsOnly_error rfl) (failsOnly_ok _)) fun _ => failsOnly_ok _

theorem sparesPlan_checkLimits {plan : Plan} : SparesPlan (plan.checkLimits request) := by
  have habsolute (grace : String) (bytes : Int) : SparesPlan (HostPath.toAbsolute grace bytes) := by
    refine failsOnly_ite (failsOnly_ok _) ?_
    split
    · exact failsOnly_error rfl
    · exact failsOnly_ok _
  have hlimits (grace : HostPath.QuotaGrace) (bytes : Int) :
      SparesPlan (HostPath.resolveLimits grace bytes) := by
    refine failsOnly_bind (habsolute _ _) fun soft => failsOnly_bind (habsolute _ _) fun hard => ?_
    refine failsOnly_ite (failsOnly_ok _) (failsOnly_ite (failsOnly_ok _) ?_)
    exact failsOnly_ite (failsOnly_error rfl) (failsOnly_ok _)
  have hbytes (storage : String) : SparesPlan (parseBytes storage) := by
    unfold parseBytes
    split
    · exact failsOnly_ok _
    · exact failsOnly_error rfl
  unfold Plan.checkLimits HostPath.checkLimits
  split
  · split
    · exact failsOnly_ok _
    · refine failsOnly_bind ?_ fun _ => failsOnly_ok _
      unfold HostPath.quotaLimits
      split
      · exact failsOnly_error rfl
      · exact failsOnly_bind (hbytes _) fun _ => hlimits _ _
  · exact failsOnly_ok _

/-! ### Whole calls -/

/-- A volume is not made when its needs are refused, before anything is done, by work, or for want of limits
when its directory has been made. -/
theorem makeVolume_eq_error {plan : Plan} (h : Path (makeVolume settings request plan) t (.error e))
    (hcluster : FailsAsCluster t) :
    (plan.checkNeeds settings request = .error e ∧ t = []) ∨ e.isOfWork = true ∨
      ∃ task, plan.checkNeeds settings request = .ok () ∧ plan.checkLimits request = .error e ∧
        HostPath.plannedTask settings request plan = .ok task ∧
        Path (HostPath.runHelper settings task) t (.ok ()) := by
  unfold makeVolume at h
  unfold Plan.checkNeeds Plan.checkLimits
  cases hkind : plan.kind with
  | hostPath =>
    rw [hkind] at h
    rcases HostPath.provision_eq_error h hcluster with ⟨htask, rfl⟩ | hwork | ⟨task, htask, hlimits, hrun⟩
    · exact .inl ⟨except_bind_eq_error_iff.2 (.inl htask), rfl⟩
    · exact .inr (.inl hwork)
    · exact .inr (.inr ⟨task, except_bind_eq_ok_iff.2 ⟨task, htask, rfl⟩, hlimits, htask, hrun⟩)
  | device =>
    rw [hkind] at h
    rcases Device.provision_eq_error h hcluster with ⟨hwanted, rfl⟩ | hwork
    · exact .inl ⟨except_bind_eq_error_iff.2 (.inl hwanted), rfl⟩
    · exact .inr (.inl hwork)

theorem checked_of_makeVolume {plan : Plan} {made : LocalVolume}
    (h : Path (makeVolume settings request plan) t (.ok made)) :
    plan.checkNeeds settings request = .ok () ∧ plan.checkLimits request = .ok () := by
  unfold makeVolume at h
  unfold Plan.checkNeeds Plan.checkLimits
  cases hkind : plan.kind with
  | hostPath =>
    rw [hkind] at h
    obtain ⟨⟨task, htask⟩, hlimits⟩ := HostPath.planned_of_provision h
    exact ⟨except_bind_eq_ok_iff.2 ⟨task, htask, rfl⟩, hlimits⟩
  | device =>
    rw [hkind] at h
    obtain ⟨wanted, hwanted⟩ := Device.planned_of_provision h
    exact ⟨except_bind_eq_ok_iff.2 ⟨wanted, hwanted, rfl⟩, rfl⟩

theorem path_planVolume {r : Except Error Plan} (h : Path (planVolume settings request) t r) :
    (∃ e, request.checkedClass = .error e ∧ t = [] ∧ r = .error e) ∨
      ∃ name, request.checkedClass = .ok name ∧
        ((∃ e, t = [.called (.getStorageClass name) (.error e)] ∧ r = .error e) ∨
          ∃ cls, t = [.called (.getStorageClass name) (.ok cls)] ∧ r = planFor settings request cls) := by
  rw [planVolume_eq] at h
  rcases Attempt.path_check_bind_iff.1 h with ⟨e, hclass, rfl, rfl⟩ | ⟨name, hclass, h₁⟩
  · exact .inl ⟨e, hclass, rfl, rfl⟩
  refine .inr ⟨name, hclass, ?_⟩
  rcases Attempt.path_call_bind_iff.1 h₁ with ⟨e, rfl, rfl⟩ | ⟨cls, u, rfl, h₂⟩
  · exact .inl ⟨e, rfl, rfl⟩
  · obtain ⟨rfl, rfl⟩ := Attempt.path_check_iff.1 h₂
    exact .inr ⟨cls, rfl, rfl⟩

/-- The ways in which a provision call fails, each with what has happened until then. -/
inductive FailedBy (settings : Settings) (request : ProvisionRequest) (t : List Event) (e : Error) :
    Prop
  /-- By an answer of the cluster, or by waiting for one. -/
  | work : e.isOfWork = true → FailedBy settings request t e
  /-- The request is refused as it is. -/
  | request : request.checkedClass = .error e → calls t = [] → FailedBy settings request t e
  /-- With its storage class, the request is refused. -/
  | plan {name : String} {cls : StorageClass} : request.checkedClass = .ok name →
      .called (.getStorageClass name) (.ok cls) ∈ t → calls t = [.getStorageClass name] →
      prepare settings request cls = .error e → FailedBy settings request t e
  /-- The directory has been made, but there are no limits for its quota. -/
  | limits {name : String} {cls : StorageClass} {plan : Plan} {task : HostPath.HelperTask} {pod : Pod}
      {looks : Nat} : request.checkedClass = .ok name →
      .called (.getStorageClass name) (.ok cls) ∈ t → prepare settings request cls = .ok plan →
      plan.checkLimits request = .error e → HostPath.plannedTask settings request plan = .ok task →
      task.pod settings = .ok pod →
      calls t = .getStorageClass name :: .createPod settings.ns pod ::
        (List.replicate looks (.getPod settings.ns task.podName) ++
          [.deletePod settings.ns task.podName]) →
      FailedBy settings request t e

/-- Every provision call that fails does so in one of the four ways. -/
theorem failedBy_of_path (h : (provision settings request).Path t (.error e))
    (hcluster : FailsAsCluster t) : FailedBy settings request t e := by
  obtain ⟨u, v, w, rfl, hw, hmade⟩ := path_provision h
  have hcalls : calls (u ++ (v ++ w)) = calls u ++ calls v := by
    rw [Program.Event.calls_append, Program.Event.calls_append, hw, List.append_nil]
  rcases hmade with ⟨e', hplan, rfl, he⟩ | ⟨plan, hplan, hmake⟩
  · cases he
    rcases path_planVolume hplan with ⟨e', hclass, rfl, he⟩ | ⟨name, hclass, ⟨e', rfl, he⟩ | ⟨cls, rfl, he⟩⟩
    · cases he
      exact .request hclass hcalls
    · cases he
      exact .work hcluster.isOfWork
    · exact .plan hclass (List.mem_cons_self ..) hcalls (prepare_eq_error_of_planFor he.symm)
  · rcases path_planVolume hplan with ⟨e', -, -, he⟩ | ⟨name, hclass, ⟨e', -, he⟩ | ⟨cls, rfl, hplanned⟩⟩
    · cases he
    · cases he
    have hmaking : FailsAsCluster v := (failsAsCluster_append.1 (failsAsCluster_append.1 hcluster).2).1
    have hprepare := prepare_of_planFor hplanned.symm
    rcases makeVolume_eq_error hmake hmaking with
      ⟨hneeds, rfl⟩ | hwork | ⟨task, hneeds, hlimits, htask, hrun⟩
    · rw [hneeds] at hprepare
      exact .plan hclass (List.mem_cons_self ..) hcalls hprepare
    · exact .work hwork
    · obtain ⟨pod, looks, hpod, hlooks⟩ := HostPath.calls_of_runHelper hrun
      rw [hneeds] at hprepare
      rw [hlooks] at hcalls
      exact .limits hclass (List.mem_cons_self ..) hprepare hlimits htask hpod hcalls

theorem prepared_of_path {made : LocalVolume} (h : (provision settings request).Path t (.ok made)) :
    ∃ name cls plan, request.checkedClass = .ok name ∧ .called (.getStorageClass name) (.ok cls) ∈ t ∧
      prepare settings request cls = .ok plan ∧ plan.checkLimits request = .ok () := by
  obtain ⟨u, v, w, plan, rfl, -, hplan, hmake⟩ := path_provision_ok h
  rcases path_planVolume hplan with ⟨e, -, -, he⟩ | ⟨name, hclass, ⟨e, -, he⟩ | ⟨cls, rfl, hplanned⟩⟩
  · cases he
  · cases he
  obtain ⟨hneeds, hlimits⟩ := checked_of_makeVolume hmake
  have hprepare := prepare_of_planFor hplanned.symm
  rw [hneeds] at hprepare
  exact ⟨name, cls, plan, hclass, List.mem_cons_self .., hprepare, hlimits⟩

/-- A call that fails with an error of its plan has read its storage class at most; one that fails with an
error of its quota has read its class, made its directory with one pod and deleted this pod again. -/
theorem calls_of_failed_provision (h : (provision settings request).Path t (.error e))
    (hcluster : FailsAsCluster t) :
    (e.isOfPlan = true →
      calls t = [] ∨ ∃ name, request.storageClass? = some name ∧ calls t = [.getStorageClass name]) ∧
    (e.isOfQuota = true → ∃ name affinity path mode pod looks, request.storageClass? = some name ∧
      (HostPath.initTask request affinity path mode).pod settings = .ok pod ∧
      calls t = .getStorageClass name :: .createPod settings.ns pod ::
        (List.replicate looks (.getPod settings.ns ("init-" ++ request.volume)) ++
          [.deletePod settings.ns ("init-" ++ request.volume)])) := by
  cases failedBy_of_path h hcluster with
  | work hwork =>
    have hplan := Error.isOfPlan_eq_false_of_isOfWork hwork
    have hquota := Error.isOfQuota_eq_false_of_isOfWork hwork
    simp [hplan, hquota]
  | request hclass hcalls =>
    have hquota := sparesQuota_checkedClass e hclass
    simp [hcalls, hquota]
  | plan hclass _ hcalls hprepare =>
    have hquota := sparesQuota_prepare e hprepare
    have hname := storageClass?_of_checkedClass hclass
    simp [hcalls, hquota, hname]
  | limits hclass _ _ hlimits htask hpod hcalls =>
    obtain ⟨affinity, path, mode, -, -, -, -, rfl⟩ := HostPath.plannedTask_eq_ok htask
    have hplan := sparesPlan_checkLimits e hlimits
    have hname := storageClass?_of_checkedClass hclass
    constructor
    · intro he
      rw [hplan] at he
      cases he
    · intro _
      exact ⟨_, affinity, path, mode, _, _, hname, hpod, hcalls⟩

end

/-! ### A quota that cannot be read -/

namespace Small

/-- A layer with a quota whose limit is not a percentage. -/
def vagueQuotaLayer : String :=
  "- name: XFSQuota\n  enabled: \"true\"\n  data:\n    softLimitGrace: plenty\n"

/-- What happens when a volume with this quota is asked for. -/
def vagueQuotaEvents : List Event :=
  (Cluster.Memory.world false).trace (provision settings (request "node-1")) (cluster vagueQuotaLayer)

theorem path_vagueQuotaEvents :
    (provision settings (request "node-1")).Path vagueQuotaEvents
      (.error (.invalidQuotaFormat "plenty")) := by
  have hrun : ((Cluster.Memory.world false).run (provision settings (request "node-1"))
      (cluster vagueQuotaLayer)).1 = .error (.invalidQuotaFormat "plenty") := by
    decide +kernel
  exact World.path_of_run hrun

end Small

theorem calls_of_failed_provision_quota :
    FailsAsCluster Small.vagueQuotaEvents ∧
      ∃ name affinity path mode pod looks, (Small.request "node-1").storageClass? = some name ∧
        (HostPath.initTask (Small.request "node-1") affinity path mode).pod Small.settings = .ok pod ∧
        calls Small.vagueQuotaEvents = .getStorageClass name :: .createPod "openebs" pod ::
          (List.replicate looks (.getPod "openebs" "init-pvc-1") ++
            [.deletePod "openebs" "init-pvc-1"]) := by
  have hcluster : FailsAsCluster Small.vagueQuotaEvents := by decide +kernel
  exact ⟨hcluster, (calls_of_failed_provision Small.path_vagueQuotaEvents hcluster).2 rfl⟩

end NodeVolumes
