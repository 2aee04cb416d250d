import NodeVolumes.Proofs.Engine

/-! # Adopted helper pods

A run takes over a pod that has the name of its own. The name tells operation and volume only, so the pod
whose success is reported may be one that an earlier run has made of another path, mode or quota.

* `podName_eq_iff`: what the name of a helper pod tells.
* `disposed_of_eventsOf`: over calls in turn, each launched pod is deleted before anything else is created.
* `reported_pod_origin`: the pod that a successful run reports is the last one that was created under its
  name. It is the run's own unless the deletion of such a pod has failed before. -/

namespace NodeVolumes

open Cluster (Call Event Memory)
open Cluster.Memory (TouchesPod)
open Program.Event (calls)
open HostPath (HelperTask runHelper RunShape runShape_of_path isLaunched awaitPod podOutcome?)
open Attempt (Path)

/-! ### Names -/

/-- The name of a helper pod tells the operation and the volume. -/
theorem podName_eq_iff {task task' : HelperTask} :
    task'.podName = task.podName ↔
      task'.operation.name = task.operation.name ∧ task'.volume = task.volume := by
  constructor
  · exact HostPath.eq_of_name_append
  · rintro ⟨hop, hvolume⟩
    unfold HelperTask.podName
    rw [hop, hvolume]

/-! ### Calls in turn -/

variable {turns earlier later : List Turn} {turn : Turn} {pre post seg : List Event}

theorem exists_creator {ns : String} {pod : Pod} {reply : Except Error Pod}
    (h : .called (.createPod ns pod) reply ∈ eventsOf turns) :
    ∃ creator ∈ turns, ∃ task, creator.call.HasTask task ∧ ns = creator.settings.ns ∧
      task.pod creator.settings = .ok pod := by
  obtain ⟨creator, hcreator, hmem⟩ := List.mem_flatMap.1 h
  obtain ⟨pre, post, hsplit⟩ := List.append_of_mem hmem
  have hcreated := creator.call.created_of_path creator.path hsplit
  obtain ⟨task, htask, hpod⟩ := hcreated.task
  exact ⟨creator, hcreator, task, htask, hcreated.ns_eq, hpod⟩

/-- Over calls in turn, a launched pod is only looked at until it is deleted. -/
theorem disposed_of_eventsOf {ns : String} {pod : Pod} {reply : Except Error Pod}
    (h : eventsOf turns = pre ++ .called (.createPod ns pod) reply :: post)
    (hlaunched : isLaunched reply = true) :
    ∃ looks more, calls post = List.replicate looks (.getPod ns pod.metadata.nameD) ++
      .deletePod ns pod.metadata.nameD :: more := by
  induction turns generalizing pre with
  | nil => simp [eventsOf] at h
  | cons turn turns ih =>
    rw [eventsOf_cons] at h
    rcases Program.append_eq_append_cons h with ⟨v, hv, rfl⟩ | ⟨v, -, hv⟩
    · obtain ⟨looks, -, more, hcalls, -⟩ := (turn.call.created_of_path turn.path hv).launched hlaunched
      refine ⟨looks, more ++ calls (eventsOf turns), ?_⟩
      rw [Program.Event.calls_append, hcalls, List.append_assoc, List.cons_append]
    · exact ih hv

theorem deletePod_mem_of_createPod {ns ns' : String} {pod pod' : Pod} {reply : Except Error Pod}
    {reply' : Except Error Pod} {between : List Event}
    (h : eventsOf turns = pre ++ .called (.createPod ns pod) reply ::
      (between ++ .called (.createPod ns' pod') reply' :: post))
    (hlaunched : isLaunched reply = true) :
    .deletePod ns pod.metadata.nameD ∈ calls between := by
  obtain ⟨looks, more, hcalls⟩ := disposed_of_eventsOf h hlaunched
  rw [Program.Event.calls_append, Program.Event.calls_called_cons] at hcalls
  rcases Program.append_eq_append_cons hcalls with ⟨v, hv, -⟩ | ⟨v, hv, hv'⟩
  · rw [hv]
    simp
  · cases v with
    | nil => cases hv'
    | cons c v =>
      -- the other creation would be among the looks
      obtain ⟨rfl, -⟩ := List.cons.inj (hv'.trans (List.cons_append ..))
      have hmem : Call.createPod ns' pod' ∈ List.replicate looks (.getPod ns pod.metadata.nameD) := by
        rw [hv]
        simp
      simp at hmem

/-! ### Reports -/

theorem found_pod_origin {faults : Call → Error → Prop} {m₀ m : Memory} (hempty : m₀.pods = .empty)
    {ns name : String} {found : Pod} (hrun : Memory.Run faults m₀
      (pre ++ .called (.getPod ns name) (.ok found) :: post) m) :
    ∃ before built between, pre = before ++ .called (.createPod ns built) (.ok found) :: between ∧
      built.metadata.nameD = name ∧ found.spec = built.spec ∧
      ∀ e ∈ between, ¬TouchesPod ⟨ns, name⟩ e := by
  obtain ⟨m₁, hpre, hlook⟩ := hrun.of_append
  have hfound : m₁.pods.get? ⟨ns, name⟩ = some found := by
    cases hlook with
    | called hdrift hanswer _ =>
      rw [← hdrift.pods]
      exact hanswer.get?_pods_of_getPod
    | silent he _ => cases he
  rcases hpre.pod_origin hfound with ⟨hpod, -⟩ | ⟨before, built, between, rfl, hname, hspec, hkept⟩
  · rw [hempty] at hpod
    cases hpod
  · exact ⟨before, built, between, rfl, hname, hspec, hkept⟩

/-- Among the events of calls in turn, `found` is the pod that was created last under the name of a task: it
was asked for as `built`, by a run of a task for the same operation and volume, and nothing has created or
deleted a pod of this name since. -/
structure CreatedLast (turns : List Turn) (events : List Event) (ns : String) (task : HelperTask)
    (found built : Pod) : Prop where
  last : ∃ before between, events = before ++ .called (.createPod ns built) (.ok found) :: between ∧
    ∀ e ∈ between, ¬TouchesPod ⟨ns, task.podName⟩ e
  spec_eq : found.spec = built.spec
  creator : ∃ creator ∈ turns, ∃ task', creator.call.HasTask task' ∧
    task'.pod creator.settings = .ok built ∧ task'.operation.name = task.operation.name ∧
    task'.volume = task.volume

/-- What a successful run reports.

Over calls of the engine in turn, on a cluster in memory that starts without pods, where any call may fail
and everything but pods and claims may change meanwhile, a successful run has asked for its own pod `own`,
and has then seen the pod `found` succeed. This is the pod that was created last under its name. It is the
run's own when the request for that was answered with success; and this was so unless the deletion of a pod
of this name has failed before. -/
theorem reported_pod_origin {faults : Call → Error → Prop} {m₀ m : Memory} (hempty : m₀.pods = .empty)
    (hrun : Memory.Run faults m₀ (eventsOf turns) m) (hturns : turns = earlier ++ turn :: later)
    (hevents : turn.events = pre ++ seg ++ post) {task : HelperTask}
    (hseg : Path (runHelper turn.settings task) seg (.ok ())) :
    ∃ own reply looks found rest,
      seg = .called (.createPod turn.settings.ns own) reply ::
        (looks ++ .called (.getPod turn.settings.ns task.podName) (.ok found) :: rest) ∧
      task.pod turn.settings = .ok own ∧ podOutcome? found = some (.ok ()) ∧
      (∃ built, CreatedLast (earlier ++ [turn])
        (eventsOf earlier ++ pre ++ .called (.createPod turn.settings.ns own) reply :: looks)
        turn.settings.ns task found built) ∧
      (∀ stored, reply = .ok stored → found.spec = own.spec) ∧
      ((∀ e, .called (.deletePod turn.settings.ns task.podName) (.error e) ∉ eventsOf earlier ++ pre) →
        ∃ stored, reply = .ok stored) := by
  obtain ⟨own, reply, looks, found, rest, hown, hlaunched, rfl, houtcome, hlooks⟩ :=
    HostPath.runHelper_eq_ok hseg
  have hname := HelperTask.nameD_of_pod_eq_ok hown
  set ns := turn.settings.ns
  -- everything up to the last look, and what comes from it on
  have hall : eventsOf turns = (eventsOf earlier ++ pre ++ .called (.createPod ns own) reply :: looks) ++
      .called (.getPod ns task.podName) (.ok found) :: (rest ++ post ++ eventsOf later) := by
    rw [hturns, eventsOf_append, eventsOf_cons, hevents]
    simp
  rw [hall] at hrun
  obtain ⟨before, built, between, hsplit, hbuilt, hspec, hkept⟩ := found_pod_origin hempty hrun
  have hlast : CreatedLast (earlier ++ [turn])
      (eventsOf earlier ++ pre ++ .called (.createPod ns own) reply :: looks) ns task found built := by
    refine ⟨⟨before, between, hsplit, hkept⟩, hspec, ?_⟩
    have hmem : .called (.createPod ns built) (.ok found) ∈ eventsOf (earlier ++ [turn]) := by
      have hin : .called (.createPod ns built) (.ok found) ∈
          eventsOf earlier ++ pre ++ .called (.createPod ns own) reply :: looks := by
        rw [hsplit]
        simp
      rw [eventsOf_append, eventsOf_cons, hevents]
      simp only [List.mem_append, List.mem_cons] at hin ⊢
      tauto
    obtain ⟨creator, hcreator, task', htask, -, hpod⟩ := exists_creator hmem
    refine ⟨creator, hcreator, task', htask, hpod, podName_eq_iff.1 ?_⟩
    rw [← HelperTask.nameD_of_pod_eq_ok hpod, hbuilt]
  refine ⟨own, reply, looks, found, rest, rfl, hown, houtcome, ⟨built, hlast⟩, ?_⟩
  rcases Program.append_eq_append_cons hsplit with ⟨v, hbefore, rfl⟩ | ⟨v, -, hv⟩
  · -- the pod was there before this run
    constructor
    · rintro stored rfl
      have htouch : TouchesPod ⟨ns, task.podName⟩ (.called (.createPod ns own) (.ok stored)) :=
        Memory.touchesPod_created hname
      exact absurd htouch (hkept _ (by simp))
    · intro hnofailure
      have hagain : eventsOf turns = before ++ .called (.createPod ns built) (.ok found) ::
          (v ++ .called (.createPod ns own) reply ::
            (looks ++ .called (.getPod ns task.podName) (.ok found) ::
              (rest ++ post ++ eventsOf later))) := by
        rw [hall, hsplit]
        simp
      have hdeleted : .deletePod ns built.metadata.nameD ∈ calls v :=
        deletePod_mem_of_createPod hagain rfl
      obtain ⟨deleted, hmem⟩ := Program.Event.exists_mem_of_mem_calls hdeleted
      rw [hbuilt] at hmem
      cases deleted with
      | ok a => exact absurd ⟨rfl, rfl⟩ (hkept _ (List.mem_append_left _ hmem))
      | error e => exact absurd (by rw [hbefore]; simp [hmem]) (hnofailure e)
  · cases v with
    | nil =>
      -- the pod is the run's own
      cases hv
      exact ⟨fun _ _ => hspec, fun _ => ⟨found, rfl⟩⟩
    | cons e v =>
      obtain ⟨rfl, rfl⟩ := List.cons.inj (hv.trans (List.cons_append ..))
      cases hlooks (.createPod ns built) (by simp)

/-! ### A report of other work -/

namespace Small

/-- A cluster that does not delete pods, with a class for directories of the mode 0777. -/
def stuckCluster : Memory := { cluster (modeLayer "0777") with failPodDeletes := true }

/-- The first call makes a directory of this mode and leaves its pod behind. -/
def firstTurn : Turn := .inMemory settings false stuckCluster (.provision (request "node-1"))

/-- After the first call, the mode of the class is changed. -/
def changedCluster : Memory :=
  (clusterAfter settings false stuckCluster (.provision (request "node-1"))).addStorageClass
    (storageClass (modeLayer "0700"))

/-- The second call asks for the same volume again. -/
def secondTurn : Turn := .inMemory settings false changedCluster (.provision (request "node-1"))

/-- The task that makes the directory of the volume with a mode. -/
def initTask (mode : String) : HelperTask where
  operation := .init mode
  volume := "pvc-1"
  path := "/var/openebs/local/pvc-1"
  nodeAffinity := KeyMap.singleton hostnameLabel "node-1"
  taints := []

/-- The pod for this task. -/
def initPod (mode : String) : Pod :=
  helperPod (.init mode) ["mkdir", "-m", mode, "-p", "/data/pvc-1"] "/var/openebs/local"

/-- What happens in the second call while it runs its task. -/
def secondRun : List Event :=
  (Memory.world false).trace (runHelper settings (initTask "0700")).run changedCluster

theorem run_stuckCluster {faults : Call → Error → Prop} :
    Memory.Run faults stuckCluster (eventsOf [firstTurn, secondTurn])
      (clusterAfter settings false changedCluster (.provision (request "node-1"))) := by
  have hsecond : Memory.Run faults changedCluster (eventsOf [secondTurn])
      (clusterAfter settings false changedCluster (.provision (request "node-1"))) := by
    rw [eventsOf_cons, eventsOf_nil, List.append_nil]
    exact Turn.run_inMemory ..
  rw [eventsOf_cons]
  exact (Turn.run_inMemory ..).append (hsecond.of_drifts (Memory.drifts_addStorageClass ..))

theorem path_secondRun : Path (runHelper settings (initTask "0700")) secondRun (.ok ()) := by
  have hresult : ((Memory.world false).run (runHelper settings (initTask "0700")).run
      changedCluster).1 = .ok () := by decide +kernel
  exact World.path_of_run hresult

theorem secondTurn_events :
    secondTurn.events = secondTurn.events.take 1 ++ secondRun ++ secondTurn.events.drop 5 := by
  decide +kernel

end Small

/-- In the second call, the pod that is reported is from one of the two calls. -/
theorem reported_pod_origin_small :
    ∃ found built, podOutcome? found = some (.ok ()) ∧ found.spec = built.spec ∧
      ∃ creator ∈ [Small.firstTurn, Small.secondTurn], ∃ task, creator.call.HasTask task ∧
        task.pod creator.settings = .ok built ∧ task.operation.name = "init" ∧
        task.volume = "pvc-1" := by
  have hrun : Memory.Run (fun _ _ => False) Small.stuckCluster
    (eventsOf [Small.firstTurn, Small.secondTurn]) _ := Small.run_stuckCluster
  have hturns : [Small.firstTurn, Small.secondTurn] = [Small.firstTurn] ++ Small.secondTurn :: [] := rfl
  obtain ⟨_, _, _, found, _, -, -, houtcome, ⟨built, hlast⟩, -⟩ :=
    reported_pod_origin rfl hrun hturns Small.secondTurn_events Small.path_secondRun
  obtain ⟨creator, hcreator, task, htask, hpod, hop, hvolume⟩ := hlast.creator
  exact ⟨found, built, houtcome, hlast.spec_eq, creator, hcreator, task, htask, hpod, hop, hvolume⟩

/-- A successful run may report work that is not its own: a pod that could not be deleted has made the
directory with the mode of an earlier call. -/
theorem not_reports_own_work :
    ¬∀ (faults : Call → Error → Prop) (m₀ m : Memory) (earlier later : List Turn) (turn : Turn)
        (pre seg post : List Event) (task : HelperTask),
      m₀.pods = .empty → Memory.Run faults m₀ (eventsOf (earlier ++ turn :: later)) m →
      turn.events = pre ++ seg ++ post → Path (runHelper turn.settings task) seg (.ok ()) →
      ∀ found own, .called (.getPod turn.settings.ns task.podName) (.ok found) ∈ seg →
        podOutcome? found = some (.ok ()) → task.pod turn.settings = .ok own →
        found.commands = own.commands ∧ found.hostDirs "data" = own.hostDirs "data" := by
  intro h
  have hfound : .called (.getPod "openebs" "init-pvc-1")
      (.ok (Small.stuckCluster.started "openebs" (Small.initPod "0777"))) ∈ Small.secondRun := by
    decide +kernel
  have hown : (Small.initTask "0700").pod Small.settings = .ok (Small.initPod "0700") := by
    decide +kernel
  obtain ⟨hcommands, -⟩ := h (fun _ _ => False) Small.stuckCluster _ [Small.firstTurn] []
    Small.secondTurn _ Small.secondRun _ (Small.initTask "0700") rfl Small.run_stuckCluster
    Small.secondTurn_events Small.path_secondRun _ _ hfound rfl hown
  exact absurd hcommands (by decide)

end NodeVolumes
