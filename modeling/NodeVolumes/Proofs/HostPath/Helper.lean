import NodeVolumes.HostPath.Helper
import NodeVolumes.Proofs.Cluster.Run
import NodeVolumes.Proofs.HostPath.HelperPod

/-! # Runs of helper pods

What a run of a helper task does to its pod, whatever the cluster answers and whenever the run is
cancelled.

* `RunShape`: the ways in which a run can go; `runShape_of_path` says that there are no others.
* `calls_awaitPod`: only the pod of the task is looked at, and only as often as is set.
* `awaitPod_eq_ok`: success means that the last look has found the pod succeeded. -/

namespace NodeVolumes.HostPath

open Cluster (Call Event Reply)
open Program.Event (calls)
open Attempt (Path)

variable {settings : Settings} {task : HelperTask} {name : String} {t : List Event}
  {r : Except Error Unit}

/-! ### Launching -/

/-- Tells whether a reply to the creation of a pod leaves a pod of its name behind. -/
def isLaunched : Except Error Pod → Bool
  | .ok _ => true
  | .error e => e.isExists

theorem isLaunched_error_eq_false_iff {e : Error} :
    isLaunched (.error e) = false ↔ ∀ kind object, e ≠ .resourceExists kind object := by
  cases e <;> simp [isLaunched, Error.isExists]

theorem path_launch {pod : Pod} (h : Path (launch settings pod) t r) :
    (∃ reply, isLaunched reply = true ∧ t = [.called (.createPod settings.ns pod) reply] ∧
      r = .ok ()) ∨
    ∃ e, isLaunched (.error e) = false ∧ t = [.called (.createPod settings.ns pod) (.error e)] ∧
      r = .error e := by
  unfold launch at h
  obtain ⟨reply, u, rfl, h'⟩ := Attempt.path_reply_bind_iff.1 h
  split at h'
  case h_1 =>
    obtain ⟨rfl, rfl⟩ := Attempt.path_pure_iff.1 h'
    exact .inl ⟨_, rfl, rfl, rfl⟩
  case h_2 =>
    obtain ⟨rfl, rfl⟩ := Attempt.path_pure_iff.1 h'
    exact .inl ⟨_, rfl, rfl, rfl⟩
  case h_3 e hne =>
    obtain ⟨rfl, rfl⟩ := Attempt.path_throw_iff.1 h'
    exact .inr ⟨e, isLaunched_error_eq_false_iff.2 hne, rfl, rfl⟩

/-! ### Looking -/

/-- While a pod is awaited, only this pod is looked at, and not more often than is left. -/
theorem calls_awaitPod {left : Nat} (h : Path (awaitPod settings name left) t r) :
    ∃ looks ≤ left, calls t = List.replicate looks (.getPod settings.ns name) := by
  induction left generalizing t with
  | zero =>
    obtain ⟨rfl, -⟩ := Attempt.path_throw_iff.1 h
    exact ⟨0, Nat.le_refl 0, rfl⟩
  | succ left ih =>
    unfold awaitPod at h
    rcases Attempt.path_call_bind_iff.1 h with ⟨e, rfl, -⟩ | ⟨pod, u, rfl, h'⟩
    · exact ⟨1, by omega, rfl⟩
    · split at h'
      case h_1 =>
        obtain ⟨rfl, -⟩ := Attempt.path_pure_iff.1 h'
        exact ⟨1, by omega, rfl⟩
      case h_2 =>
        obtain ⟨rfl, -⟩ := Attempt.path_throw_iff.1 h'
        exact ⟨1, by omega, rfl⟩
      case h_3 =>
        rcases Attempt.path_waitOr_bind_iff.1 h' with ⟨rfl, -⟩ | ⟨v, rfl, h''⟩
        · exact ⟨1, by omega, rfl⟩
        · obtain ⟨looks, hle, hcalls⟩ := ih h''
          refine ⟨looks + 1, by omega, ?_⟩
          rw [Program.Event.calls_called_cons, Program.Event.calls_slept_cons, hcalls]
          rfl

/-- The wait for a pod succeeds when its last look finds the pod succeeded. -/
theorem awaitPod_eq_ok {left : Nat} (h : Path (awaitPod settings name left) t (.ok ())) :
    ∃ looks pod, t = looks ++ [.called (.getPod settings.ns name) (.ok pod)] ∧
      podOutcome? pod = some (.ok ()) := by
  induction left generalizing t with
  | zero => cases (Attempt.path_throw_iff.1 h).2
  | succ left ih =>
    unfold awaitPod at h
    rcases Attempt.path_call_bind_iff.1 h with ⟨e, -, he⟩ | ⟨pod, u, rfl, h'⟩
    · cases he
    · split at h'
      case h_1 houtcome =>
        obtain ⟨rfl, -⟩ := Attempt.path_pure_iff.1 h'
        exact ⟨[], pod, rfl, houtcome⟩
      case h_2 => cases (Attempt.path_throw_iff.1 h').2
      case h_3 =>
        rcases Attempt.path_waitOr_bind_iff.1 h' with ⟨-, he⟩ | ⟨v, rfl, h''⟩
        · cases he
        · obtain ⟨looks, found, rfl, houtcome⟩ := ih h''
          exact ⟨_ :: _ :: looks, found, rfl, houtcome⟩

/-! ### Whole runs -/

theorem path_dispose {pod : String} (h : Path (dispose settings pod) t r) :
    r = .ok () ∧ ∃ reply told, t = .called (.deletePod settings.ns pod) reply :: told ∧
      calls told = [] := by
  unfold dispose at h
  obtain ⟨reply, u, rfl, h'⟩ := Attempt.path_reply_bind_iff.1 h
  cases reply with
  | ok a =>
    obtain ⟨rfl, rfl⟩ := Attempt.path_pure_iff.1 h'
    exact ⟨rfl, _, [], rfl, rfl⟩
  | error e =>
    obtain ⟨rfl, rfl⟩ := Attempt.path_warn_iff.1 h'
    exact ⟨rfl, _, _, rfl, rfl⟩

/-- What a run of a task does, and its outcome. -/
inductive RunShape (settings : Settings) (task : HelperTask) : List Event → Except Error Unit → Prop
  /-- No pod can be built. -/
  | refused {e : Error} : task.pod settings = .error e → RunShape settings task [] (.error e)
  /-- The cluster does not create the pod. -/
  | rejected {pod : Pod} {e : Error} : task.pod settings = .ok pod → isLaunched (.error e) = false →
      RunShape settings task [.called (.createPod settings.ns pod) (.error e)] (.error e)
  /-- The pod is awaited and deleted. -/
  | ran {pod : Pod} {reply : Except Error Pod} {looks told : List Event} {deleted : Except Error Unit}
      {r : Except Error Unit} : task.pod settings = .ok pod → isLaunched reply = true →
      Path (awaitPod settings task.podName settings.helperPollCount) looks r → calls told = [] →
      RunShape settings task
        (.called (.createPod settings.ns pod) reply ::
          (looks ++ .called (.deletePod settings.ns task.podName) deleted :: told)) r

/-- Every run goes in one of the three ways. -/
theorem runShape_of_path (h : Path (runHelper settings task) t r) : RunShape settings task t r := by
  unfold runHelper at h
  rcases Attempt.path_check_bind_iff.1 h with ⟨e, hpod, rfl, rfl⟩ | ⟨pod, hpod, h₁⟩
  · exact .refused hpod
  rcases Attempt.path_bind_iff.1 h₁ with ⟨e, hlaunch, rfl⟩ | ⟨u, v, _, rfl, hlaunch, h₂⟩
  · rcases path_launch hlaunch with ⟨_, _, _, hr⟩ | ⟨_, he, rfl, hr⟩
    · cases hr
    · cases hr
      exact .rejected hpod he
  rcases path_launch hlaunch with ⟨reply, hreply, rfl, -⟩ | ⟨_, _, _, hr⟩
  · obtain ⟨looks, w, result, rfl, hawait, h₃⟩ := Attempt.path_outcome_bind_iff.1 h₂
    rcases Attempt.path_bind_iff.1 h₃ with ⟨e, hdispose, -⟩ | ⟨u, v, _, rfl, hdispose, h₄⟩
    · cases (path_dispose hdispose).1
    · obtain ⟨-, deleted, told, rfl, htold⟩ := path_dispose hdispose
      cases result with
      | ok a =>
        obtain ⟨rfl, rfl⟩ := Attempt.path_pure_iff.1 h₄
        rw [List.append_nil]
        exact .ran hpod hreply hawait htold
      | error e =>
        obtain ⟨w, rfl, h₅⟩ := Attempt.path_warn_bind_iff.1 h₄
        obtain ⟨rfl, rfl⟩ := Attempt.path_throw_iff.1 h₅
        have hnone : calls (told ++ [.told (.log .warning
            ("Helper pod " ++ task.podName ++ " did not complete: " ++ e.message))]) = [] := by
          rw [Program.Event.calls_append, htold]
          rfl
        exact .ran hpod hreply hawait hnone
  · cases hr

theorem runHelper_eq_ok (h : Path (runHelper settings task) t (.ok ())) :
    ∃ own reply looks found rest, task.pod settings = .ok own ∧ isLaunched reply = true ∧
      t = .called (.createPod settings.ns own) reply ::
        (looks ++ .called (.getPod settings.ns task.podName) (.ok found) :: rest) ∧
      podOutcome? found = some (.ok ()) ∧
      ∀ c ∈ calls looks, c = .getPod settings.ns task.podName := by
  generalize hr : (Except.ok () : Except Error Unit) = r at h
  cases runShape_of_path h with
  | refused _ => cases hr
  | rejected _ _ => cases hr
  | @ran pod reply first told deleted _ hpod hlaunched hawait _ =>
    subst hr
    obtain ⟨count, -, hcalls⟩ := calls_awaitPod hawait
    obtain ⟨looks, found, rfl, houtcome⟩ := awaitPod_eq_ok hawait
    refine ⟨pod, reply, looks, found, .called (.deletePod settings.ns task.podName) deleted :: told,
      hpod, hlaunched, ?_, houtcome, ?_⟩
    · rw [List.append_assoc]
      rfl
    · intro c hc
      rw [Program.Event.calls_append] at hcalls
      exact List.eq_of_mem_replicate (hcalls ▸ List.mem_append_left _ hc)

/-- A run creates at most one pod, and creates it first. After a launch it looks at the pod and deletes it;
after a refusal of the cluster it does nothing. -/
theorem RunShape.of_create {pre post : List Event} {ns : String} {pod : Pod}
    {reply : Except Error Pod}
    (h : RunShape settings task (pre ++ .called (.createPod ns pod) reply :: post) r) :
    pre = [] ∧ ns = settings.ns ∧ task.pod settings = .ok pod ∧
      ((isLaunched reply = true ∧ ∃ looks ≤ settings.helperPollCount,
          calls post = List.replicate looks (.getPod settings.ns task.podName) ++
            [.deletePod settings.ns task.podName]) ∨
        ∃ e, reply = .error e ∧ isLaunched (.error e) = false ∧ post = [] ∧ r = .error e) := by
  generalize ht : pre ++ .called (.createPod ns pod) reply :: post = t at h
  cases h with
  | refused _ => simp at ht
  | rejected hpod he =>
    rw [List.append_eq_singleton_iff] at ht
    rcases ht with ⟨rfl, ht⟩ | ⟨_, ht⟩
    · cases ht
      exact ⟨rfl, rfl, hpod, .inr ⟨_, rfl, he, rfl, rfl⟩⟩
    · cases ht
  | ran hpod hreply hlooks htold =>
    obtain ⟨looks, hle, hcalls⟩ := calls_awaitPod hlooks
    cases pre with
    | nil =>
      cases ht
      refine ⟨rfl, rfl, hpod, .inl ⟨hreply, looks, hle, ?_⟩⟩
      rw [Program.Event.calls_append, hcalls, Program.Event.calls_called_cons, htold]
    | cons e pre =>
      -- behind the first event there are only looks and the deletion
      rw [List.cons_append] at ht
      have hrest := congrArg calls (List.cons.inj ht).2
      rw [Program.Event.calls_append, Program.Event.calls_append, hcalls,
        Program.Event.calls_called_cons, Program.Event.calls_called_cons, htold] at hrest
      have hmem : Call.createPod ns pod ∈ List.replicate looks (.getPod settings.ns task.podName) ++
          [.deletePod settings.ns task.podName] := by
        rw [← hrest]
        simp
      simp at hmem

theorem RunShape.of_delete {pre post : List Event} {ns : String} {deleted : Except Error Unit}
    (h : RunShape settings task (pre ++ .called (.deletePod ns name) deleted :: post) r) :
    ∃ created looks, pre = created :: looks ∧
      Path (awaitPod settings task.podName settings.helperPollCount) looks r ∧ calls post = [] := by
  generalize ht : pre ++ .called (.deletePod ns name) deleted :: post = t at h
  cases h with
  | refused _ => simp at ht
  | rejected hpod he =>
    rw [List.append_eq_singleton_iff] at ht
    rcases ht with ⟨-, ht⟩ | ⟨-, ht⟩
    · cases ht
    · cases ht
  | @ran pod reply looks told _ _ hpod hreply hlooks htold =>
    obtain ⟨count, -, hcalls⟩ := calls_awaitPod hlooks
    cases pre with
    | nil => cases ht
    | cons e pre =>
      rw [List.cons_append] at ht
      obtain ⟨rfl, hrest⟩ := List.cons.inj ht
      refine ⟨_, pre, rfl, ?_⟩
      -- the deletion is behind the looks, and the only one
      rcases Program.append_eq_append_cons hrest.symm with ⟨v, rfl, -⟩ | ⟨v, rfl, hv⟩
      · have hmem : Call.deletePod ns name ∈ List.replicate count
            (Call.getPod settings.ns task.podName) := by
          rw [← hcalls]
          simp
        simp at hmem
      · cases v with
        | nil =>
          cases hv
          rw [List.append_nil]
          exact ⟨hlooks, htold⟩
        | cons e v =>
          obtain ⟨-, rfl⟩ := List.cons.inj (hv.trans (List.cons_append ..))
          rw [Program.Event.calls_append, Program.Event.calls_called_cons] at htold
          simp at htold

/-! ### All paths -/

section
variable {P : List Event → Prop} (hP : Attempt.Composable P)
include hP

theorem always_awaitPod (hget : ∀ r, P [.called (.getPod settings.ns name) r]) (left : Nat) :
    (awaitPod settings name left).Always P := by
  induction left with
  | zero => exact Attempt.always_throw hP _
  | succ left ih =>
    unfold awaitPod
    refine Attempt.always_bind hP (Attempt.always_call hget) fun pod => ?_
    split
    · exact Attempt.always_pure hP _
    · exact Attempt.always_throw hP _
    · exact Attempt.always_bind hP (Attempt.always_waitOr hP _ _) fun _ => ih

/-- A property holds on all paths of a run when it holds of the calls on its pod. -/
theorem always_runHelper
    (hcreate : ∀ pod r, task.pod settings = .ok pod → P [.called (.createPod settings.ns pod) r])
    (hget : ∀ r, P [.called (.getPod settings.ns task.podName) r])
    (hdelete : ∀ r, P [.called (.deletePod settings.ns task.podName) r]) :
    (runHelper settings task).Always P := by
  intro t r ht
  cases runShape_of_path ht with
  | refused _ => exact hP.nil
  | rejected hpod _ => exact hcreate _ _ hpod
  | @ran pod reply looks told deleted r hpod _ hlooks htold =>
    have hquiet : P told := hP.of_calls_eq_nil htold
    have hend : P ([.called (.deletePod settings.ns task.podName) deleted] ++ told) :=
      hP.append (hdelete deleted) hquiet
    exact hP.append (hcreate _ reply hpod)
      (hP.append (always_awaitPod hP hget _ looks r hlooks) hend)

end

theorem podKey?_of_runHelper (h : Path (runHelper settings task) t r) :
    ∀ c ∈ calls t, c.podKey? = some ⟨settings.ns, task.podName⟩ := by
  refine always_runHelper (Attempt.composable_calls fun c => c.podKey? = some _) ?_ ?_ ?_ t r h
  · intro pod reply hpod c hc
    rw [List.mem_singleton.1 hc, Call.podKey?, HelperTask.nameD_of_pod_eq_ok hpod]
  · intro reply c hc
    rw [List.mem_singleton.1 hc]
    rfl
  · intro reply c hc
    rw [List.mem_singleton.1 hc]
    rfl

end NodeVolumes.HostPath
