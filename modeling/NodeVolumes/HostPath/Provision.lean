import NodeVolumes.HostPath.Helper
import NodeVolumes.Quantity
import NodeVolumes.Volume.LocalVolume

/-! # Volumes in directories

A directory volume is made by a helper pod on the chosen node; a second pod sets its quota when one is
configured. It is removed by a helper pod on the node that carries the labels on record.

* `provision` and `delete` are the two halves.
* `findNode` finds the only node with given labels. -/

namespace NodeVolumes

/-- What has been decided about a volume before it is made. -/
structure Plan where
  config : VolumeConfig
  kind : StorageKind
  storageClass : String
  reclaimPolicy : String
  deriving DecidableEq, Repr

namespace HostPath

/-- The only node that carries all given labels. -/
def findNode (labels : TextMap) : Attempt Node := do
  let failure (reason : String) : Error := .nodeLookup (Text.quotedPairs labels.toList) reason
  match ← Attempt.callOr (.listNodes labels) fun e => failure e.message with
  | [] => throw (failure "no node matches the labels")
  | [n] => return n
  | _ => throw (failure "found multiple nodes matching the labels")

/-- The limits of the quota for a request. -/
def quotaLimits (request : ProvisionRequest) (grace : QuotaGrace) : Except Error QuotaLimits := do
  match request.storage? with
  | none =>
    throw (.invalidRequest ("claim for " ++ request.volume ++ " has no storage request"))
  | some storage => resolveLimits grace (← parseBytes storage)

/-- Sets the quota on a directory that has been made by a task. -/
def applyQuota (settings : Settings) (request : ProvisionRequest) (made : HelperTask)
    (grace : QuotaGrace) : Attempt Unit := do
  let limits ← Attempt.check (quotaLimits request grace)
  match ← (runHelper settings { made with operation := .quota limits }).outcome with
  | .ok () => return
  | .error e =>
    Attempt.warn ("Applying quota on " ++ request.volume ++ " failed: " ++ e.message)
    throw e

/-- Makes the directory of a volume, with its quota if one is configured. -/
def provision (settings : Settings) (request : ProvisionRequest) (plan : Plan) :
    Attempt LocalVolume := do
  let nodeAffinity ← Attempt.check (request.affinityLabels plan.config.affinityLabels?)
  let path ← Attempt.check plan.config.path
  let mode ← Attempt.check plan.config.mode
  let task : HelperTask :=
    { operation := .init mode
      volume := request.volume
      path
      nodeAffinity
      taints := (request.node.map (·.taints)).getD [] }
  runHelper settings task
  match plan.config.quotaGrace? with
  | none => pure ()
  | some grace => applyQuota settings request task grace
  return {
    name := request.volume
    backing := .hostPath path
    nodeAffinity
    capacity := request.storage?
    accessModes := request.accessModes
    reclaimPolicy := plan.reclaimPolicy
    volumeMode := filesystemMode
    storageClass := some plan.storageClass }

/-- Removes the directory of a volume. -/
def delete (settings : Settings) (record : VolumeRecord) : Attempt Unit := do
  match record.path with
  | none => throw (.invalidRequest ("no HostPath set on " ++ record.name))
  | some path =>
    if record.nodeAffinity.isEmpty then
      throw (.invalidRequest ("cannot find affinited node details on " ++ record.name))
    let node ← findNode record.nodeAffinity
    runHelper settings
      { operation := .cleanup
        volume := record.name
        path
        nodeAffinity := record.nodeAffinity
        taints := node.taints }

end HostPath
end NodeVolumes
