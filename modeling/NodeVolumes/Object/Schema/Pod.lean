import NodeVolumes.Object.Schema.Container
import NodeVolumes.Object.Schema.Storage

/-! # Schemas of pods

The volumes of a pod, where it may run, and what it reports of itself. -/

namespace NodeVolumes.Schema

/-! ### Volumes -/

/-- Entries of a map that become files. -/
def keyToPath : Schema := object (must text ["key", "path"] ++ may whole32 ["mode"])

/-- A fact about the pod that becomes a file. -/
def factFile : Schema :=
  object (must text ["path"] ++ may fieldReference ["fieldRef"] ++ may whole32 ["mode"] ++
    may resourceReference ["resourceFieldRef"])

/-- Entries of a map that become files, under its name. -/
def namedFiles : Fields := may (list keyToPath) ["items"] ++ may flag ["optional"]

/-- A source of files among several that make up a volume. -/
def projection : Schema :=
  object (
    may (object (must text ["path"] ++ may labelSelector ["labelSelector"] ++
      may text ["name", "signerName"] ++ may flag ["optional"])) ["clusterTrustBundle"] ++
    may (object (namedFiles ++ may text ["name"])) ["configMap", "secret"] ++
    may (object (may (list factFile) ["items"])) ["downwardAPI"] ++
    may (object (must text ["path"] ++ may text ["audience"] ++ may whole64 ["expirationSeconds"]))
      ["serviceAccountToken"])

/-- A claim that is made for the pod alone. -/
def ephemeralVolume : Schema :=
  object (may (object (may metadata ["metadata"] ++ must persistentVolumeClaimSpec ["spec"]))
    ["volumeClaimTemplate"])

/-- Storage behind a driver, for the pod alone. -/
def podDriverStorage : Schema :=
  object (must text ["driver"] ++ may text ["fsType"] ++ may localReference ["nodePublishSecretRef"] ++
    may flag ["readOnly"] ++ may textMap ["volumeAttributes"])

/-- A volume of a pod. -/
def podVolume : Schema :=
  let mode := may whole32 ["defaultMode"]
  object (must text ["name"] ++ storageSources localReference localReference ++
    may (object (must text ["secretName", "shareName"] ++ may flag ["readOnly"])) ["azureFile"] ++
    may (object (namedFiles ++ mode ++ may text ["name"])) ["configMap"] ++
    may podDriverStorage ["csi"] ++
    may (object (mode ++ may (list factFile) ["items"])) ["downwardAPI"] ++
    may (object (may text ["medium", "sizeLimit"])) ["emptyDir"] ++
    may ephemeralVolume ["ephemeral"] ++
    may (object (must text ["repository"] ++ may text ["directory", "revision"])) ["gitRepo"] ++
    may (object (must text ["endpoints", "path"] ++ may flag ["readOnly"])) ["glusterfs"] ++
    may (object (must text ["claimName"] ++ may flag ["readOnly"])) ["persistentVolumeClaim"] ++
    may (object (mode ++ may (list projection) ["sources"])) ["projected"] ++
    may (object (namedFiles ++ mode ++ may text ["secretName"])) ["secret"])

/-! ### Places -/

/-- Pods near which a pod is to run, or from which it is to keep away. -/
def podAffinityTerm : Schema :=
  object (must text ["topologyKey"] ++ may labelSelector ["labelSelector", "namespaceSelector"] ++
    may texts ["matchLabelKeys", "mismatchLabelKeys", "namespaces"])

/-- Pods near which a pod must or should run. -/
def podAffinity : Schema :=
  object (
    may (list (object (must podAffinityTerm ["podAffinityTerm"] ++ must whole32 ["weight"])))
      ["preferredDuringSchedulingIgnoredDuringExecution"] ++
    may (list podAffinityTerm) ["requiredDuringSchedulingIgnoredDuringExecution"])

/-- Nodes on which a pod must or should run. -/
def podNodeAffinity : Schema :=
  object (
    may (list (object (must nodeSelectorTerm ["preference"] ++ must whole32 ["weight"])))
      ["preferredDuringSchedulingIgnoredDuringExecution"] ++
    may nodeSelector ["requiredDuringSchedulingIgnoredDuringExecution"])

/-- Where a pod may run. -/
def affinity : Schema :=
  object (may podNodeAffinity ["nodeAffinity"] ++ may podAffinity ["podAffinity", "podAntiAffinity"])

/-- What lets a pod onto a tainted node. -/
def toleration : Schema :=
  object (may text ["effect", "key", "operator", "value"] ++ may whole64 ["tolerationSeconds"])

/-- How pods are spread over the nodes. -/
def topologySpread : Schema :=
  object (must whole32 ["maxSkew"] ++ must text ["topologyKey", "whenUnsatisfiable"] ++
    may labelSelector ["labelSelector"] ++ may texts ["matchLabelKeys"] ++ may whole32 ["minDomains"] ++
    may text ["nodeAffinityPolicy", "nodeTaintsPolicy"])

/-! ### Specification -/

/-- What the containers of a pod may do to its node. -/
def podSecurityContext : Schema :=
  object (commonRights ++ may whole64 ["fsGroup"] ++ may text ["fsGroupChangePolicy"] ++
    may (list whole64) ["supplementalGroups"] ++
    may (list (object (must text ["name", "value"]))) ["sysctls"])

/-- How a pod looks names up. -/
def dnsConfig : Schema :=
  object (may texts ["nameservers", "searches"] ++
    may (list (object (may text ["name", "value"]))) ["options"])

/-- A claim for a resource that a pod uses. -/
def resourceClaim : Schema :=
  object (must text ["name"] ++
    may (object (may text ["resourceClaimName", "resourceClaimTemplateName"])) ["source"])

/-- What a pod runs and where. -/
def podSpec : Schema :=
  object (must (list container) ["containers"] ++ may (list container) ["initContainers"] ++
    may (list ephemeralContainer) ["ephemeralContainers"] ++
    may whole64 ["activeDeadlineSeconds", "terminationGracePeriodSeconds"] ++ may whole32 ["priority"] ++
    may affinity ["affinity"] ++
    may flag ["automountServiceAccountToken", "enableServiceLinks", "hostIPC", "hostNetwork", "hostPID",
      "hostUsers", "setHostnameAsFQDN", "shareProcessNamespace"] ++
    may dnsConfig ["dnsConfig"] ++
    may (list (object (may texts ["hostnames"] ++ may text ["ip"]))) ["hostAliases"] ++
    may text ["dnsPolicy", "hostname", "nodeName", "preemptionPolicy", "priorityClassName",
      "restartPolicy", "runtimeClassName", "schedulerName", "serviceAccount", "serviceAccountName",
      "subdomain"] ++
    may (list localReference) ["imagePullSecrets"] ++ may textMap ["nodeSelector", "overhead"] ++
    may (object (must text ["name"])) ["os"] ++
    may (list (object (must text ["conditionType"]))) ["readinessGates"] ++
    may (list resourceClaim) ["resourceClaims"] ++
    may (list (object (must text ["name"]))) ["schedulingGates"] ++
    may podSecurityContext ["securityContext"] ++ may (list toleration) ["tolerations"] ++
    may (list topologySpread) ["topologySpreadConstraints"] ++ may (list podVolume) ["volumes"])

/-! ### Status -/

/-- A condition that a pod is in. -/
def podCondition : Schema :=
  object (must text ["status", "type"] ++ may time ["lastProbeTime", "lastTransitionTime"] ++
    may text ["message", "reason"])

/-- The state of a container. -/
def containerState : Schema :=
  object (may (object (may time ["startedAt"])) ["running"] ++
    may (object (must whole32 ["exitCode"] ++ may text ["containerID", "message", "reason"] ++
      may time ["finishedAt", "startedAt"] ++ may whole32 ["signal"])) ["terminated"] ++
    may (object (may text ["message", "reason"])) ["waiting"])

/-- How a container is doing. -/
def containerStatus : Schema :=
  object (must text ["image", "imageID", "name"] ++ must flag ["ready"] ++ must whole32 ["restartCount"] ++
    may textMap ["allocatedResources"] ++ may text ["containerID"] ++
    may containerState ["lastState", "state"] ++ may resourceRequirements ["resources"] ++
    may flag ["started"])

/-- How a pod is doing. -/
def podStatus : Schema :=
  let address := object (may text ["ip"])
  object (may (list podCondition) ["conditions"] ++
    may (list containerStatus)
      ["containerStatuses", "ephemeralContainerStatuses", "initContainerStatuses"] ++
    may text ["hostIP", "message", "nominatedNodeName", "phase", "podIP", "qosClass", "reason",
      "resize"] ++
    may (list address) ["hostIPs", "podIPs"] ++
    may (list (object (must text ["name"] ++ may text ["resourceClaimName"]))) ["resourceClaimStatuses"] ++
    may time ["startTime"])

end NodeVolumes.Schema
