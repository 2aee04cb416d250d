import NodeVolumes.Object.Schema.Metadata

/-! # Schemas of storage

The kinds of storage that persistent volumes and the volumes of pods are made of. Where the two differ
only in how they name a secret, the schema takes that reference.

* `Schema.storageSources` lists the kinds that both can have.
* `Schema.persistentVolumeSpec` is built on them. -/

namespace NodeVolumes.Schema

/-! ### Kinds of storage -/

/-- A disk of a cloud, with a partition and a name under the given key. -/
def cloudDisk (id : String) : Schema :=
  object (must text [id] ++ may text ["fsType"] ++ may whole32 ["partition"] ++ may flag ["readOnly"])

/-- A disk of another cloud, named twice. -/
def namedDisk : Schema :=
  object (must text ["diskName", "diskURI"] ++ may text ["cachingMode", "fsType", "kind"] ++
    may flag ["readOnly"])

/-- A file system on several servers. -/
def monitoredFiles (secret : Schema) : Schema :=
  object (must texts ["monitors"] ++ may text ["path", "secretFile", "user"] ++ may flag ["readOnly"] ++
    may secret ["secretRef"])

/-- A disk of a private cloud. -/
def privateDisk (secret : Schema) : Schema :=
  object (must text ["volumeID"] ++ may text ["fsType"] ++ may flag ["readOnly"] ++
    may secret ["secretRef"])

/-- A unit behind a storage network. -/
def fibreChannel : Schema :=
  object (may text ["fsType"] ++ may whole32 ["lun"] ++ may flag ["readOnly"] ++
    may texts ["targetWWNs", "wwids"])

/-- Storage behind a program of the node. -/
def programVolume (secret : Schema) : Schema :=
  object (must text ["driver"] ++ may text ["fsType"] ++ may textMap ["options"] ++
    may flag ["readOnly"] ++ may secret ["secretRef"])

/-- A data set that moves with its container. -/
def dataSet : Schema := object (may text ["datasetName", "datasetUUID"])

/-- A directory of the node. -/
def nodeDirectory : Schema := object (must text ["path"] ++ may text ["type"])

/-- A unit behind a server of blocks. -/
def blockServer (secret : Schema) : Schema :=
  object (must text ["iqn", "targetPortal"] ++ must whole32 ["lun"] ++
    may flag ["chapAuthDiscovery", "chapAuthSession", "readOnly"] ++
    may text ["fsType", "initiatorName", "iscsiInterface"] ++ may texts ["portals"] ++
    may secret ["secretRef"])

/-- A directory of a file server. -/
def fileServer : Schema := object (must text ["path", "server"] ++ may flag ["readOnly"])

/-- A disk with an identifier alone. -/
def plainDisk : Schema := object (must text ["pdID"] ++ may text ["fsType"])

/-- A volume of a storage cluster. -/
def clusterVolume : Schema :=
  object (must text ["volumeID"] ++ may text ["fsType"] ++ may flag ["readOnly"])

/-- A volume behind a registry. -/
def registryVolume : Schema :=
  object (must text ["registry", "volume"] ++ may text ["group", "tenant", "user"] ++
    may flag ["readOnly"])

/-- An image on several servers. -/
def monitoredImage (secret : Schema) : Schema :=
  object (must text ["image"] ++ must texts ["monitors"] ++
    may text ["fsType", "keyring", "pool", "user"] ++ may flag ["readOnly"] ++ may secret ["secretRef"])

/-- A volume behind a gateway, for which the secret has to be named. -/
def gatewayVolume (secret : Schema) : Schema :=
  object (must text ["gateway", "system"] ++ must secret ["secretRef"] ++
    may text ["fsType", "protectionDomain", "storageMode", "storagePool", "volumeName"] ++
    may flag ["readOnly", "sslEnabled"])

/-- A volume with its own namespace. -/
def namespacedVolume (secret : Schema) : Schema :=
  object (may text ["fsType", "volumeName", "volumeNamespace"] ++ may flag ["readOnly"] ++
    may secret ["secretRef"])

/-- A disk of a virtual machine. -/
def machineDisk : Schema :=
  object (must text ["volumePath"] ++ may text ["fsType", "storagePolicyID", "storagePolicyName"])

/-- The kinds of storage that pods and persistent volumes share. One kind has its own way to name a
secret. -/
def storageSources (secret namespacedSecret : Schema) : Fields :=
  may (cloudDisk "volumeID") ["awsElasticBlockStore"] ++ may namedDisk ["azureDisk"] ++
    may (monitoredFiles secret) ["cephfs"] ++ may (privateDisk secret) ["cinder"] ++
    may fibreChannel ["fc"] ++ may (programVolume secret) ["flexVolume"] ++ may dataSet ["flocker"] ++
    may (cloudDisk "pdName") ["gcePersistentDisk"] ++ may nodeDirectory ["hostPath"] ++
    may (blockServer secret) ["iscsi"] ++ may fileServer ["nfs"] ++
    may plainDisk ["photonPersistentDisk"] ++ may clusterVolume ["portworxVolume"] ++
    may registryVolume ["quobyte"] ++ may (monitoredImage secret) ["rbd"] ++
    may (gatewayVolume secret) ["scaleIO"] ++
    may (namespacedVolume namespacedSecret) ["storageos"] ++ may machineDisk ["vsphereVolume"]

/-! ### Persistent volumes -/

/-- Storage behind a driver, for a persistent volume. -/
def driverStorage : Schema :=
  object (must text ["driver", "volumeHandle"] ++
    may secretReference ["controllerExpandSecretRef", "controllerPublishSecretRef",
      "nodeExpandSecretRef", "nodePublishSecretRef", "nodeStageSecretRef"] ++
    may text ["fsType"] ++ may flag ["readOnly"] ++ may textMap ["volumeAttributes"])

/-- Shared files of a cloud, for a persistent volume. -/
def cloudShare : Schema :=
  object (must text ["secretName", "shareName"] ++ may text ["secretNamespace"] ++ may flag ["readOnly"])

/-- A distributed file system, for a persistent volume. -/
def distributedFiles : Schema :=
  object (must text ["endpoints", "path"] ++ may text ["endpointsNamespace"] ++ may flag ["readOnly"])

/-- What a persistent volume consists of. -/
def persistentVolumeSpec : Schema :=
  object (storageSources secretReference objectReference ++
    may cloudShare ["azureFile"] ++ may driverStorage ["csi"] ++ may distributedFiles ["glusterfs"] ++
    may (object (must text ["path"] ++ may text ["fsType"])) ["local"] ++
    may texts ["accessModes", "mountOptions"] ++ may textMap ["capacity"] ++
    may objectReference ["claimRef"] ++ may (object (may nodeSelector ["required"])) ["nodeAffinity"] ++
    may text ["persistentVolumeReclaimPolicy", "storageClassName", "volumeAttributesClassName",
      "volumeMode"])

/-- How a persistent volume is doing. -/
def persistentVolumeStatus : Schema :=
  object (may time ["lastPhaseTransitionTime"] ++ may text ["message", "phase", "reason"])

/-! ### Claims and classes -/

/-- What a claim asks for. -/
def persistentVolumeClaimSpec : Schema :=
  let source := must text ["kind", "name"] ++ may text ["apiGroup"]
  object (may texts ["accessModes"] ++ may (object source) ["dataSource"] ++
    may (object (source ++ may text ["namespace"])) ["dataSourceRef"] ++
    may (object (may textMap ["limits", "requests"])) ["resources"] ++ may labelSelector ["selector"] ++
    may text ["storageClassName", "volumeAttributesClassName", "volumeMode", "volumeName"])

/-- A condition that a claim is in. -/
def claimCondition : Schema :=
  object (must text ["status", "type"] ++ may time ["lastProbeTime", "lastTransitionTime"] ++
    may text ["message", "reason"])

/-- How a claim is doing. -/
def persistentVolumeClaimStatus : Schema :=
  object (may texts ["accessModes"] ++
    may textMap ["allocatedResourceStatuses", "allocatedResources", "capacity"] ++
    may (list claimCondition) ["conditions"] ++
    may text ["currentVolumeAttributesClassName", "phase"] ++
    may (object (must text ["status"] ++ may text ["targetVolumeAttributesClassName"]))
      ["modifyVolumeStatus"])

/-- The members of a class of storage. -/
def storageClassFields : Fields :=
  let expression := object (must text ["key"] ++ must texts ["values"])
  must text ["provisioner"] ++ may flag ["allowVolumeExpansion"] ++
    may (list (object (may (list expression) ["matchLabelExpressions"]))) ["allowedTopologies"] ++
    may texts ["mountOptions"] ++ may textMap ["parameters"] ++
    may text ["reclaimPolicy", "volumeBindingMode"]

/-- A class of storage. -/
def storageClass : Schema := object storageClassFields

end NodeVolumes.Schema
