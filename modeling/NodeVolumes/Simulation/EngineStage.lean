import NodeVolumes.Cluster.Memory
import NodeVolumes.Simulation.Stage

/-! # The engine on a cluster in memory

The calls of the engine are logged, disturbed by hooks and answered by a cluster in memory.

* `engineWorld` is the world that engine programs run in. -/

namespace NodeVolumes

namespace Cluster.Call

/-- The name of a call in logs. -/
def name : Call → String
  | getStorageClass _ => "get_storage_class"
  | listNodes _ => "list_nodes"
  | createPod .. => "create_pod"
  | getPod .. => "get_pod"
  | deletePod .. => "delete_pod"
  | listPods _ => "list_pods"
  | getClaim .. => "get_claim"
  | createClaim .. => "create_claim"
  | replaceClaim .. => "replace_claim"
  | deleteClaim .. => "delete_claim"
  | listClaims _ => "list_claims"
  | getBlockDevice .. => "get_block_device"

/-- The namespace of a call about one object in it. -/
def ns? : Call → Option String
  | createPod ns _ => some ns
  | getPod ns _ => some ns
  | deletePod ns _ => some ns
  | getClaim ns _ => some ns
  | createClaim ns _ => some ns
  | replaceClaim ns _ => some ns
  | deleteClaim ns _ => some ns
  | getBlockDevice ns _ => some ns
  | _ => none

/-- The name of the object of a call; a list has its labels or its namespace instead. -/
def object : Call → String
  | getStorageClass name => name
  | listNodes labels => String.intercalate "," (labels.toList.map fun (key, v) => key ++ "=" ++ v)
  | createPod _ pod => pod.metadata.nameD
  | getPod _ name => name
  | deletePod _ name => name
  | listPods ns => ns
  | getClaim _ name => name
  | createClaim _ claim => claim.metadata.nameD
  | replaceClaim _ claim => claim.metadata.nameD
  | deleteClaim _ name => name
  | listClaims ns => ns
  | getBlockDevice _ name => name

end Cluster.Call

namespace Simulation

/-- A call of the engine and the error that it gave, if it failed. -/
structure CallEntry where
  call : Cluster.Call
  error : Option Error
  deriving DecidableEq, Repr

/-- The stage of the engine. -/
abbrev EngineStage : Type := Stage Cluster.Memory Error CallEntry

namespace EngineStage

/-- Carries out what firing hooks do, up to the first one that lets the call fail. -/
def disturb (s : EngineStage) : List (Hook Cluster.Memory Error) → Option Error × EngineStage
  | [] => (none, s)
  | h :: rest =>
    let s := s.prepareAll h.before
    match h.fault with
    | some e => (some e, s)
    | none => disturb s rest

/-- The error of a reply. -/
def errorOf {α : Type} : Except Error α → Option Error
  | .ok _ => none
  | .error e => some e

/-- Answers a call by the cluster, unless a hook lets it fail. -/
def answer (c : Cluster.Call) (s : EngineStage) : Cluster.Reply c × EngineStage :=
  let (firing, s) := s.strike c.name c.object
  match disturb s firing with
  | (some e, s) => (.error e, s.record ⟨c, some e⟩)
  | (none, s) =>
    let (reply, store) := s.store.answer c
    (reply, { s with store }.record ⟨c, errorOf reply⟩)

end EngineStage

/-- The world that engine programs run in. -/
def engineWorld : World Cluster.Call Cluster.Reply Note EngineStage where
  answer := EngineStage.answer
  isCancelled := Stage.isCancelled
  pass := Stage.pass
  hear := Stage.hear

end Simulation
end NodeVolumes
