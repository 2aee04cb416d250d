import NodeVolumes.Proofs.Engine

/-! # Disposal of helper pods

No helper pod outlives the run that needs it. The deletion of a pod is asked for on every way out of a run,
and what comes of it changes nothing about the outcome.

* `runHelper_deleted_otherwise`: the outcome of a run does not depend on the answer to the deletion.
* `get?_pods_of_runHelper`: where deletions do not fail, a run leaves no pod of its name behind.
* `helper_pods_are_disposed_of`: both, and that calls of the engine delete each pod before anything else is
  done to pods. -/

namespace NodeVolumes

open Cluster (Call Event Memory)
open Program.Event (calls)
open HostPath (HelperRuns HelperTask runHelper RunShape runShape_of_path isLaunched awaitPod)
open Attempt (Path)

variable {settings : Settings} {task : HelperTask} {t : List Event} {r : Except Error Unit}

/-! ### The answer to the deletion -/

instance (c : Call) : Nonempty (Cluster.Reply c) := ⟨.error (.internal "")⟩

/-- If the deletion had been answered in another way, the outcome would be the same. -/
theorem runHelper_deleted_otherwise {pre post : List Event} {ns name : String}
    {deleted deleted' : Except Error Unit} {r' : Except Error Unit} {post' : List Event}
    (h : Path (runHelper settings task) (pre ++ .called (.deletePod ns name) deleted :: post) r)
    (h' : Path (runHelper settings task) (pre ++ .called (.deletePod ns name) deleted' :: post') r') :
    r' = r := by
  obtain ⟨created, looks, rfl, hlooks, -⟩ := (runShape_of_path h).of_delete
  obtain ⟨created', looks', hpre, hlooks', -⟩ := (runShape_of_path h').of_delete
  obtain ⟨rfl, rfl⟩ := List.cons.inj hpre
  exact Program.Path.result_unique hlooks' hlooks

theorem exists_path_of_deleted {pre post : List Event} {ns name : String}
    {deleted : Except Error Unit}
    (h : Path (runHelper settings task) (pre ++ .called (.deletePod ns name) deleted :: post) r)
    (deleted' : Except Error Unit) :
    ∃ post', Path (runHelper settings task)
      (pre ++ .called (.deletePod ns name) deleted' :: post') r := by
  obtain ⟨post', r', h'⟩ := Program.Path.answered_otherwise h deleted'
  have hr : r' = r := runHelper_deleted_otherwise h h'
  exact ⟨post', hr ▸ h'⟩

/-! ### Pods that are left -/

namespace Cluster.Memory

variable {faults : Call → Error → Prop} {m m' : Memory}

theorem Run.failPodDeletes (h : Run faults m t m') : m'.failPodDeletes = m.failPodDeletes := by
  induction h with
  | done hdrift => exact hdrift.failPodDeletes
  | called hdrift hanswer _ ih =>
    rw [ih, ← hdrift.failPodDeletes]
    exact hanswer.frame.failPodDeletes
  | silent _ _ ih => exact ih

theorem get?_pods_of_deletePod {ns name : String} {reply : Reply (.deletePod ns name)}
    (h : m.Answers faults (.deletePod ns name) reply m') (hdeletes : m.failPodDeletes = false)
    (hfaults : ∀ e, ¬faults (.deletePod ns name) e) : m'.pods.get? ⟨ns, name⟩ = none := by
  cases h with
  | failed he => exact absurd he (hfaults _)
  | given =>
    unfold answer deletePod
    dsimp only
    rw [if_neg (by rw [hdeletes]; exact Bool.false_ne_true)]
    split
    case isTrue =>
      dsimp only
      rw [KeyMap.get?_erase, if_pos rfl]
    case isFalse habsent => simpa [KeyMap.contains] using habsent

end Cluster.Memory

theorem get?_pods_of_runHelper_of_ne {faults : Call → Error → Prop} {m m' : Memory}
    (hpath : Path (runHelper settings task) t r) (hrun : Memory.Run faults m t m') {key : ObjectKey}
    (hkey : key ≠ ⟨settings.ns, task.podName⟩) : m'.pods.get? key = m.pods.get? key := by
  apply hrun.get?_pods_of_ne
  intro c hc hpod
  rw [HostPath.podKey?_of_runHelper hpath c hc] at hpod
  exact hkey (Option.some.inj hpod).symm

/-- What comes after a run has launched its pod: no pod of its name, and all other pods as before. -/
theorem get?_pods_of_runHelper {faults : Call → Error → Prop} {m m' : Memory}
    (hpath : Path (runHelper settings task) t r) (hrun : Memory.Run faults m t m')
    (hdeletes : m.failPodDeletes = false) (hfaults : ∀ ns name e, ¬faults (.deletePod ns name) e)
    {ns : String} {pod : Pod} {reply : Except Error Pod}
    (hcreate : .called (.createPod ns pod) reply ∈ t) (hlaunched : isLaunched reply = true) :
    m'.pods.get? ⟨settings.ns, task.podName⟩ = none ∧
      ∀ key, key ≠ ⟨settings.ns, task.podName⟩ → m'.pods.get? key = m.pods.get? key := by
  cases runShape_of_path hpath with
  | refused _ => cases hcreate
  | rejected _ hrefused =>
    cases List.mem_singleton.1 hcreate
    rw [hrefused] at hlaunched
    cases hlaunched
  | @ran built first looks told deleted _ hbuilt _ hlooks htold =>
    obtain ⟨count, -, hcalls⟩ := HostPath.calls_awaitPod hlooks
    constructor
    · rw [← List.cons_append] at hrun
      obtain ⟨m₁, hbefore, hafter⟩ := hrun.of_append
      cases hafter with
      | @called _ m₂ m₃ _ _ _ _ hdrift hanswer hrest =>
        have hkept : ∀ e ∈ told, ¬Memory.TouchesPod ⟨settings.ns, task.podName⟩ e := by
          intro e he htouch
          have hsilent := List.filterMap_eq_nil_iff.1 htold e he
          exact Memory.not_succeeds_of_call?_eq_none hsilent htouch
        rw [hrest.get?_pods_of_untouched hkept]
        exact Memory.get?_pods_of_deletePod hanswer
          (hdrift.failPodDeletes.trans (hbefore.failPodDeletes.trans hdeletes)) (hfaults _ _)
      | silent he _ => cases he
    · exact fun key hkey => get?_pods_of_runHelper_of_ne hpath hrun hkey

/-! ### Pods as they were -/

section
variable {faults : Call → Error → Prop} {m m' : Memory}

/-- Where there is no pod of its name, a run leaves the pods as they were. -/
theorem pods_of_runHelper (hpath : Path (runHelper settings task) t r) (hrun : Memory.Run faults m t m')
    (hdeletes : m.failPodDeletes = false) (hfaults : ∀ ns name e, ¬faults (.deletePod ns name) e)
    (habsent : m.pods.get? ⟨settings.ns, task.podName⟩ = none) : m'.pods = m.pods := by
  apply KeyMap.ext_get?
  intro key
  by_cases hkey : key = ⟨settings.ns, task.podName⟩
  · subst hkey
    by_cases hcreated : ∃ pod reply, .called (.createPod settings.ns pod) reply ∈ t ∧
        isLaunched reply = true
    · obtain ⟨pod, reply, hmem, hlaunched⟩ := hcreated
      rw [(get?_pods_of_runHelper hpath hrun hdeletes hfaults hmem hlaunched).1, habsent]
    · apply hrun.get?_pods_of_untouched
      intro e he htouch
      -- a run that launches no pod is over after at most one call, which fails
      cases runShape_of_path hpath with
      | refused _ => cases he
      | rejected _ _ =>
        rw [List.mem_singleton.1 he] at htouch
        exact Memory.not_succeeds_error htouch
      | ran _ hlaunched _ _ => exact hcreated ⟨_, _, List.mem_cons_self .., hlaunched⟩
  · exact get?_pods_of_runHelper_of_ne hpath hrun hkey

theorem pods_of_helperRuns {tasks : HelperTask → Prop} {α : Type} {r : Except Error α}
    (h : HelperRuns settings tasks t r) (hrun : Memory.Run faults m t m')
    (hdeletes : m.failPodDeletes = false) (hfaults : ∀ ns name e, ¬faults (.deletePod ns name) e)
    (habsent : ∀ task, tasks task → m.pods.get? ⟨settings.ns, task.podName⟩ = none) :
    m'.pods = m.pods := by
  induction h generalizing m with
  | ended ht => exact hrun.pods_of_calls (by simp [ht])
  | succeeded htask hpath _ ih =>
    obtain ⟨m₁, hfirst, hrest⟩ := hrun.of_append
    have hpods : m₁.pods = m.pods := pods_of_runHelper hpath hfirst hdeletes hfaults (habsent _ htask)
    rw [ih hrest (hfirst.failPodDeletes.trans hdeletes) (by rwa [hpods]), hpods]
  | failed htask hpath ht =>
    obtain ⟨m₁, hfirst, hrest⟩ := hrun.of_append
    have hpods : m₁.pods = m.pods := pods_of_runHelper hpath hfirst hdeletes hfaults (habsent _ htask)
    rw [hrest.pods_of_calls (by simp [ht]), hpods]

theorem EngineCall.pods_of_path {call : EngineCall} {r : Except Error call.Result}
    (h : (call.program settings).Path t r) (hrun : Memory.Run faults m t m')
    (hdeletes : m.failPodDeletes = false) (hfaults : ∀ ns name e, ¬faults (.deletePod ns name) e)
    (habsent : ∀ task, call.HasTask task → m.pods.get? ⟨settings.ns, task.podName⟩ = none) :
    m'.pods = m.pods := by
  obtain ⟨u, v, rfl, hspares, hruns⟩ := call.helperRuns_of_path h
  obtain ⟨m₁, hfirst, hrest⟩ := hrun.of_append
  have hpods : m₁.pods = m.pods := hfirst.pods_of_calls hspares
  rw [pods_of_helperRuns hruns hrest (hfirst.failPodDeletes.trans hdeletes) hfaults (by rwa [hpods]), hpods]

end

/-! ### Calls of the engine -/

/-- Every helper pod is disposed of.

In a call of the engine, a pod whose creation leaves it on the cluster is looked at, not more often than is
set, and then deleted before anything else is done to pods; any other answer to its creation ends the call
with this error. The answer to the deletion has no influence on the outcome of a run. In a cluster in memory
in which deletions do not fail, no pod of the name is left, and all others are as before. -/
theorem helper_pods_are_disposed_of (settings : Settings) :
    (∀ (call : EngineCall) (t : List Event) (r : Except Error call.Result),
      (call.program settings).Path t r → ∀ pre ns pod reply post,
        t = pre ++ .called (.createPod ns pod) reply :: post →
          (isLaunched reply = true → ∃ looks ≤ settings.helperPollCount, ∃ later,
            calls post = List.replicate looks (.getPod ns pod.metadata.nameD) ++
              .deletePod ns pod.metadata.nameD :: later ∧
            (later = [] ∨ ∃ ns' pod' rest, later = .createPod ns' pod' :: rest)) ∧
          ∀ e, reply = .error e → isLaunched reply = false → calls post = [] ∧ r = .error e) ∧
    (∀ (task : HelperTask) (t : List Event) (r : Except Error Unit),
      Path (runHelper settings task) t r →
        (∀ ns pod e, .called (.createPod ns pod) (.error e) ∈ t → isLaunched (.error e) = false →
          r = .error e) ∧
        ∀ pre ns name deleted post, t = pre ++ .called (.deletePod ns name) deleted :: post →
          ∀ deleted', (∃ post', Path (runHelper settings task)
              (pre ++ .called (.deletePod ns name) deleted' :: post') r) ∧
            ∀ post' r', Path (runHelper settings task)
              (pre ++ .called (.deletePod ns name) deleted' :: post') r' → r' = r) ∧
    ∀ (task : HelperTask) (t : List Event) (r : Except Error Unit) (faults : Call → Error → Prop)
      (m m' : Memory), Path (runHelper settings task) t r → Memory.Run faults m t m' →
        m.failPodDeletes = false → (∀ ns name e, ¬faults (.deletePod ns name) e) →
        ∀ ns pod reply, .called (.createPod ns pod) reply ∈ t → isLaunched reply = true →
          m'.pods.get? ⟨settings.ns, task.podName⟩ = none ∧
            ∀ key, key ≠ ⟨settings.ns, task.podName⟩ → m'.pods.get? key = m.pods.get? key := by
  refine ⟨?_, ?_, ?_⟩
  · intro call t r h pre ns pod reply post ht
    have hcreated := call.created_of_path h ht
    exact ⟨hcreated.launched, hcreated.refused⟩
  · intro task t r h
    constructor
    · intro ns pod e hmem hrefused
      obtain ⟨pre, post, rfl⟩ := List.append_of_mem hmem
      obtain ⟨-, -, -, ⟨hlaunched, -⟩ | ⟨e', he, -, -, hr⟩⟩ := (runShape_of_path h).of_create
      · rw [hrefused] at hlaunched
        cases hlaunched
      · cases he
        exact hr
    · rintro pre ns name deleted post rfl deleted'
      exact ⟨exists_path_of_deleted h deleted', fun post' r' h' => runHelper_deleted_otherwise h h'⟩
  · intro task t r faults m m' hpath hrun hdeletes hfaults ns pod reply hcreate hlaunched
    exact get?_pods_of_runHelper hpath hrun hdeletes hfaults hcreate hlaunched

/-- The pod that removes a volume is looked at and deleted, and is not left on the cluster. -/
theorem helper_pods_are_disposed_of_volume :
    let pod := Small.cleanupPod "/var/local"
    let cluster := Small.cluster ""
    (∃ pre post, (Turn.inMemory Small.settings false cluster (.delete (Small.volume "/var/local/pvc-1"))).events =
        pre ++ .called (.createPod "openebs" pod) (.ok (cluster.started "openebs" pod)) :: post ∧
      ∃ looks ≤ 120, ∃ later, calls post = List.replicate looks (.getPod "openebs" "cleanup-pvc-1") ++
        .deletePod "openebs" "cleanup-pvc-1" :: later) ∧
    ((Memory.world false).run (runHelper Small.settings (Small.cleanupTask "/var/local/pvc-1")).run
      cluster).2.pods.get? ⟨"openebs", "cleanup-pvc-1"⟩ = none := by
  intro pod cluster
  have hlaws := helper_pods_are_disposed_of Small.settings
  constructor
  · let turn := Turn.inMemory Small.settings false cluster (.delete (Small.volume "/var/local/pvc-1"))
    have hmem : .called (.createPod "openebs" pod) (.ok (cluster.started "openebs" pod)) ∈
        turn.events := by decide +kernel
    obtain ⟨pre, post, hsplit⟩ := List.append_of_mem hmem
    obtain ⟨looks, hle, later, hcalls, -⟩ :=
      (hlaws.1 _ _ _ turn.path pre _ pod _ post hsplit).1 rfl
    exact ⟨pre, post, hsplit, looks, hle, later, hcalls⟩
  · let p := (runHelper Small.settings (Small.cleanupTask "/var/local/pvc-1")).run
    have hmem : .called (.createPod "openebs" pod) (.ok (cluster.started "openebs" pod)) ∈
        (Memory.world false).trace p cluster := by decide +kernel
    have hrun : Memory.Run (fun _ _ => False) cluster ((Memory.world false).trace p cluster)
      ((Memory.world false).run p cluster).2 := Memory.run_world false p cluster
    exact (hlaws.2.2 _ _ _ _ _ _ (World.path_run _ p cluster) hrun rfl (fun _ _ _ => id) _ _ _ hmem
      rfl).1

end NodeVolumes
