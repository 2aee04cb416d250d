import NodeVolumes.Object.Schema

/-! # Schemas of metadata and references

What objects say about themselves, and how they name and choose each other. -/

namespace NodeVolumes.Schema

/-- The object that an object belongs to. -/
def ownerReference : Schema :=
  object (must text ["apiVersion", "kind", "name", "uid"] ++ may flag ["blockOwnerDeletion", "controller"])

/-- What a manager of an object has set in it. -/
def managedFields : Schema :=
  object (may text ["apiVersion", "fieldsType", "manager", "operation", "subresource"] ++
    may anything ["fieldsV1"] ++ may time ["time"])

/-- The metadata of an object. -/
def metadata : Schema :=
  object (may text ["generateName", "name", "namespace", "resourceVersion", "selfLink", "uid"] ++
    may textMap ["annotations", "labels"] ++ may time ["creationTimestamp", "deletionTimestamp"] ++
    may whole64 ["deletionGracePeriodSeconds", "generation"] ++ may texts ["finalizers"] ++
    may (list managedFields) ["managedFields"] ++ may (list ownerReference) ["ownerReferences"])

/-- A reference to an object. -/
def objectReference : Schema :=
  object (may text ["apiVersion", "fieldPath", "kind", "name", "namespace", "resourceVersion", "uid"])

/-- A reference to an object of the same namespace by its name. -/
def localReference : Schema := object (may text ["name"])

/-- A reference to a secret of any namespace. -/
def secretReference : Schema := object (may text ["name", "namespace"])

/-- A requirement on labels. -/
def requirement : Schema := object (must text ["key", "operator"] ++ may texts ["values"])

/-- A choice of objects by their labels. -/
def labelSelector : Schema :=
  object (may (list requirement) ["matchExpressions"] ++ may textMap ["matchLabels"])

/-- A term of a node selector. -/
def nodeSelectorTerm : Schema := object (may (list requirement) ["matchExpressions", "matchFields"])

/-- A choice of nodes. -/
def nodeSelector : Schema := object (must (list nodeSelectorTerm) ["nodeSelectorTerms"])

end NodeVolumes.Schema
