import NodeVolumes.Object.Schema.Metadata

/-! # Schemas of nodes

What a node is set up to do, and what it reports of itself. -/

namespace NodeVolumes.Schema

/-- The source of the configuration of a node. -/
def nodeConfigSource : Schema :=
  object (may (object (must text ["kubeletConfigKey", "name", "namespace"] ++
    may text ["resourceVersion", "uid"])) ["configMap"])

/-- What keeps pods away from a node. -/
def taint : Schema :=
  object (must text ["effect", "key"] ++ may time ["timeAdded"] ++ may text ["value"])

/-- What a node is set up to do. -/
def nodeSpec : Schema :=
  object (may nodeConfigSource ["configSource"] ++ may text ["externalID", "podCIDR", "providerID"] ++
    may texts ["podCIDRs"] ++ may (list taint) ["taints"] ++ may flag ["unschedulable"])

/-- A condition that a node is in. -/
def nodeCondition : Schema :=
  object (must text ["status", "type"] ++ may time ["lastHeartbeatTime", "lastTransitionTime"] ++
    may text ["message", "reason"])

/-- The software of a node. -/
def nodeInfo : Schema :=
  object (must text ["architecture", "bootID", "containerRuntimeVersion", "kernelVersion",
    "kubeProxyVersion", "kubeletVersion", "machineID", "operatingSystem", "osImage", "systemUUID"])

/-- The configurations of a node. -/
def nodeConfigStatus : Schema :=
  object (may nodeConfigSource ["active", "assigned", "lastKnownGood"] ++ may text ["error"])

/-- How a node is doing. -/
def nodeStatus : Schema :=
  object (may (list (object (must text ["address", "type"]))) ["addresses"] ++
    may textMap ["allocatable", "capacity"] ++ may (list nodeCondition) ["conditions"] ++
    may nodeConfigStatus ["config"] ++
    may (object (may (object (must whole32 ["Port"])) ["kubeletEndpoint"])) ["daemonEndpoints"] ++
    may (list (object (may texts ["names"] ++ may whole64 ["sizeBytes"]))) ["images"] ++
    may nodeInfo ["nodeInfo"] ++ may text ["phase"] ++
    may (list (object (must text ["devicePath", "name"]))) ["volumesAttached"] ++
    may texts ["volumesInUse"])

end NodeVolumes.Schema
