import NodeVolumes.Api.Call
import NodeVolumes.Cluster.Call

/-! # The cluster behind the API server

The calls of the engine, each made as one call of the API server.

* `overApi` answers a call of the engine, `Engine.overApi` turns a whole program.
* `labelSelector` writes the labels that nodes must carry. -/

namespace NodeVolumes.Api

/-- A program that calls the API server. -/
abbrev Client (α : Type) : Type := Program Call Reply Note α

/-- Labels as a selector: pairs of key and value, separated by commas. -/
def labelSelector (labels : TextMap) : String :=
  String.intercalate "," (labels.toList.map fun (key, v) => key ++ "=" ++ v)

/-- Makes a call about one object. Missing and existing objects are told by their own errors. -/
def about (c : Call) : Client (Except Error c.Answer) := do
  return (← Program.ask c).mapError fun e => Error.ofApi e c.kind.name (c.name?.getD "")

/-- Makes a call about a list of objects. -/
def overall (c : Call) : Client (Except Error c.Answer) := do
  return (← Program.ask c).mapError .api

/-- Answers a call of the engine by a call of the API server. -/
def overApi : (c : Cluster.Call) → Client (Cluster.Reply c)
  | .getStorageClass name => about (.get .storageClass none name)
  | .listNodes labels => overall (.list .node none (some (labelSelector labels)))
  | .createPod ns pod => about (.create .pod (some ns) pod)
  | .getPod ns name => about (.get .pod (some ns) name)
  | .deletePod ns name => about (.delete .pod (some ns) name)
  | .listPods ns => overall (.list .pod (some ns) none)
  | .getClaim ns name => about (.get .blockDeviceClaim (some ns) name)
  | .createClaim ns claim => about (.create .blockDeviceClaim (some ns) claim)
  | .replaceClaim ns claim => about (.replace .blockDeviceClaim (some ns) claim)
  | .deleteClaim ns name => about (.delete .blockDeviceClaim (some ns) name)
  | .listClaims ns => overall (.list .blockDeviceClaim (some ns) none)
  | .getBlockDevice ns name => about (.get .blockDevice (some ns) name)

/-- A program of the engine as a client of the API server. -/
def ofEngine {α : Type} (p : Engine α) : Client α := p.substitute overApi

end NodeVolumes.Api
