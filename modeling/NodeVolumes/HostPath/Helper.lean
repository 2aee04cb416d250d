import NodeVolumes.Cluster.Call
import NodeVolumes.HostPath.HelperPod

/-! # Running helper pods

A task is run by creating its pod, looking at it until it has ended, and deleting it. A pod of the same
name that is already there is taken over.

* `awaitPod` looks at a pod a limited number of times.
* `runHelper` deletes the pod whatever the outcome; a failure to delete it is only logged. -/

namespace NodeVolumes.HostPath

/-- How a pod ended, or nothing while it has not. -/
def podOutcome? (pod : Pod) : Option (Except String Unit) :=
  match pod.status.bind (·.phase) with
  | some "Succeeded" => some (.ok ())
  | some "Failed" =>
    some (.error (((pod.status.bind (·.message)).or (pod.status.bind (·.reason))).getD "pod failed"))
  | _ => none

/-- Looks at a pod until it has ended, at most as often as is left. -/
def awaitPod (settings : Settings) (name : String) : Nat → Attempt Unit
  | 0 => throw (.helperTimeout name settings.helperPollCount)
  | left + 1 => do
    let pod ← Attempt.call (.getPod settings.ns name)
    match podOutcome? pod with
    | some (.ok ()) => return
    | some (.error reason) => throw (.helperFailed name reason)
    | none =>
      Attempt.waitOr settings.helperPollMs (.cancelled ("waiting on helper pod " ++ name))
      awaitPod settings name left

/-- Creates the pod of a task, or takes over the one that has its name. -/
def launch (settings : Settings) (pod : Pod) : Attempt Unit := do
  match ← Attempt.reply (.createPod settings.ns pod) with
  | .ok _ => return
  | .error (.resourceExists ..) => return
  | .error e => throw e

/-- Deletes a helper pod. -/
def dispose (settings : Settings) (name : String) : Attempt Unit := do
  match ← Attempt.reply (.deletePod settings.ns name) with
  | .ok _ => return
  | .error e => Attempt.warn ("Unable to delete the helper pod " ++ name ++ ": " ++ e.message)

/-- Runs a task to its end. -/
def runHelper (settings : Settings) (task : HelperTask) : Attempt Unit := do
  let pod ← Attempt.check (task.pod settings)
  let name := task.podName
  launch settings pod
  let result ← (awaitPod settings name settings.helperPollCount).outcome
  dispose settings name
  match result with
  | .ok () => return
  | .error e =>
    Attempt.warn ("Helper pod " ++ name ++ " did not complete: " ++ e.message)
    throw e

end NodeVolumes.HostPath
