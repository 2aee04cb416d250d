import NodeVolumes.Proofs.Engine

/-! # Confined helper pods

A helper pod may do everything on its node, so a wrong path in its command or mount would cost a node its
data. No configuration layer and no persistent volume, however they are written, lead to such a pod.

* `EngineCall.confined_of_mem_calls`: every pod that a call of the engine asks for is confined. -/

namespace NodeVolumes

open Program.Event (calls)

/-- Every pod that a call of the engine asks the cluster for is built for a task of the call, and is
confined: it mounts a directory of the node below its root, works on the directory in it that is named after
the volume, and only runs on nodes with the labels of the task. -/
theorem EngineCall.confined_of_mem_calls {settings : Settings} {call : EngineCall}
    {t : List Cluster.Event} {r : Except Error call.Result} (h : (call.program settings).Path t r)
    {ns : String} {pod : Pod} (hpod : .createPod ns pod ∈ calls t) :
    ns = settings.ns ∧
      ∃ task, call.HasTask task ∧ task.pod settings = .ok pod ∧ task.Confined pod := by
  obtain ⟨reply, hmem⟩ := Program.Event.exists_mem_of_mem_calls hpod
  obtain ⟨pre, post, ht⟩ := List.append_of_mem hmem
  have hcreated := call.created_of_path h ht
  obtain ⟨task, htask, hbuilt⟩ := hcreated.task
  exact ⟨hcreated.ns_eq, task, htask, hbuilt, HostPath.HelperTask.confined_of_pod_eq_ok hbuilt⟩

/-- A volume whose path is written in an odd way is removed by a confined pod. -/
theorem EngineCall.confined_of_mem_calls_volume :
    ∃ task : HostPath.HelperTask, task.volume = "pvc-1" ∧ task.Confined (Small.cleanupPod "/var/local") := by
  let turn := Turn.inMemory Small.settings false (Small.cluster "")
    (.delete (Small.volume "//var/./local/pvc-1/"))
  have hmem : .createPod "openebs" (Small.cleanupPod "/var/local") ∈ calls turn.events := by
    decide +kernel
  obtain ⟨-, task, htask, -, hconfined⟩ := EngineCall.confined_of_mem_calls turn.path hmem
  obtain ⟨record, hrecord, hvolume, -⟩ := htask
  refine ⟨task, hvolume.trans ?_, hconfined⟩
  cases hrecord
  rfl

end NodeVolumes
