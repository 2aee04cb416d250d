import NodeVolumes.Object.Schema.Metadata

/-! # Schemas of containers

What a container runs, with which rights, and how it is watched. -/

namespace NodeVolumes.Schema

/-! ### Environment -/

/-- One entry of a map of settings or of a secret. -/
def keyReference : Schema := object (must text ["key"] ++ may text ["name"] ++ may flag ["optional"])

/-- All entries of a map of settings or of a secret. -/
def entriesReference : Schema := object (may text ["name"] ++ may flag ["optional"])

/-- A field of the pod itself. -/
def fieldReference : Schema := object (must text ["fieldPath"] ++ may text ["apiVersion"])

/-- A resource of a container. -/
def resourceReference : Schema :=
  object (must text ["resource"] ++ may text ["containerName", "divisor"])

/-- A variable of the environment. -/
def environmentVariable : Schema :=
  object (must text ["name"] ++ may text ["value"] ++
    may (object (may keyReference ["configMapKeyRef", "secretKeyRef"] ++
      may fieldReference ["fieldRef"] ++ may resourceReference ["resourceFieldRef"])) ["valueFrom"])

/-- Variables of the environment from one source. -/
def environmentSource : Schema :=
  object (may entriesReference ["configMapRef", "secretRef"] ++ may text ["prefix"])

/-! ### Actions -/

/-- A command in the container. -/
def execAction : Schema := object (may texts ["command"])

/-- A request to the container. -/
def httpGetAction : Schema :=
  object (must wholeOrText ["port"] ++ may text ["host", "path", "scheme"] ++
    may (list (object (must text ["name", "value"]))) ["httpHeaders"])

/-- A connection to the container. -/
def tcpSocketAction : Schema := object (must wholeOrText ["port"] ++ may text ["host"])

/-- What is done at a turn of a container's life. -/
def lifecycleHandler : Schema :=
  object (may execAction ["exec"] ++ may httpGetAction ["httpGet"] ++
    may (object (must whole64 ["seconds"])) ["sleep"] ++ may tcpSocketAction ["tcpSocket"])

/-- How it is found out whether a container works. -/
def probe : Schema :=
  object (may execAction ["exec"] ++ may httpGetAction ["httpGet"] ++
    may tcpSocketAction ["tcpSocket"] ++
    may (object (must whole32 ["port"] ++ may text ["service"])) ["grpc"] ++
    may whole32 ["failureThreshold", "initialDelaySeconds", "periodSeconds", "successThreshold",
      "timeoutSeconds"] ++ may whole64 ["terminationGracePeriodSeconds"])

/-! ### Rights and resources -/

/-- A label for the kernel. -/
def kernelLabel : Schema := object (may text ["level", "role", "type", "user"])

/-- The system calls that are allowed. -/
def allowedCalls : Schema := object (must text ["type"] ++ may text ["localhostProfile"])

/-- Rights on nodes with another operating system. -/
def guestRights : Schema :=
  object (may text ["gmsaCredentialSpec", "gmsaCredentialSpecName", "runAsUserName"] ++
    may flag ["hostProcess"])

/-- The rights that pods and their containers can both have. -/
def commonRights : Fields :=
  may whole64 ["runAsGroup", "runAsUser"] ++ may flag ["runAsNonRoot"] ++
    may kernelLabel ["seLinuxOptions"] ++ may allowedCalls ["seccompProfile"] ++
    may guestRights ["windowsOptions"]

/-- What a container may do to its node. -/
def securityContext : Schema :=
  object (commonRights ++
    may flag ["allowPrivilegeEscalation", "privileged", "readOnlyRootFilesystem"] ++
    may (object (may texts ["add", "drop"])) ["capabilities"] ++ may text ["procMount"])

/-- The resources of a container. -/
def resourceRequirements : Schema :=
  object (may (list (object (must text ["name"]))) ["claims"] ++ may textMap ["limits", "requests"])

/-! ### Containers -/

/-- A place in a container at which it sees a volume. -/
def volumeMount : Schema :=
  object (must text ["mountPath", "name"] ++
    may text ["mountPropagation", "subPath", "subPathExpr"] ++ may flag ["readOnly"])

/-- A port of a container. -/
def containerPort : Schema :=
  object (must whole32 ["containerPort"] ++ may text ["hostIP", "name", "protocol"] ++
    may whole32 ["hostPort"])

/-- The members of every container. -/
def containerFields : Fields :=
  must text ["name"] ++ may texts ["args", "command"] ++ may (list environmentVariable) ["env"] ++
    may (list environmentSource) ["envFrom"] ++
    may text ["image", "imagePullPolicy", "restartPolicy", "terminationMessagePath",
      "terminationMessagePolicy", "workingDir"] ++
    may (object (may lifecycleHandler ["postStart", "preStop"])) ["lifecycle"] ++
    may probe ["livenessProbe", "readinessProbe", "startupProbe"] ++
    may (list containerPort) ["ports"] ++
    may (list (object (must text ["resourceName", "restartPolicy"]))) ["resizePolicy"] ++
    may resourceRequirements ["resources"] ++ may securityContext ["securityContext"] ++
    may flag ["stdin", "stdinOnce", "tty"] ++
    may (list (object (must text ["devicePath", "name"]))) ["volumeDevices"] ++
    may (list volumeMount) ["volumeMounts"]

/-- A container of a pod. -/
def container : Schema := object containerFields

/-- A container that is added to a running pod. -/
def ephemeralContainer : Schema := object (containerFields ++ may text ["targetContainerName"])

end NodeVolumes.Schema
