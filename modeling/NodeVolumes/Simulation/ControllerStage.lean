import NodeVolumes.Api.Server
import NodeVolumes.Controller.Reconcile
import NodeVolumes.Simulation.Stage

/-! # The controller on an API server in memory

The requests to the API server are logged, disturbed by hooks and answered by a server in memory.

* `controllerWorld` is the world that controller programs run in. -/

namespace NodeVolumes.Simulation

/-- A call of the API server and the failure that it gave, if it failed. -/
structure RequestEntry where
  call : Api.Call
  failure : Option ApiFailure

/-- The code of the response. -/
def RequestEntry.status (e : RequestEntry) : Nat :=
  match e.failure, e.call with
  | some f, _ => f.code
  | none, .create .. => 201
  | none, _ => 200

/-- The stage of the controller. -/
abbrev ControllerStage : Type := Stage Api.Server ApiFailure RequestEntry

namespace ControllerStage

/-- The name by which hooks know the calls of one verb on one kind. -/
def callName (verb kind : String) : String := verb ++ " " ++ kind

/-- The failure of a reply. -/
def failureOf {α : Type} : Except ApiFailure α → Option ApiFailure
  | .ok _ => none
  | .error e => some e

/-- Makes a request to the server, unless hooks let it fail; of several failures the last counts. -/
def request (c : Api.Call) (s : ControllerStage) : Except ApiFailure c.Body × ControllerStage :=
  let (firing, s) := s.strike (callName c.verb c.kind.name) (c.target?.getD "")
  let s := s.prepareAll (firing.flatMap (·.before))
  match (firing.filterMap (·.fault)).getLast? with
  | some f => (.error f, s.record ⟨c, some f⟩)
  | none =>
    let (response, store) := s.store.respond c
    (response, { s with store }.record ⟨c, failureOf response⟩)

/-- Answers a call by a request, unless none can be written. -/
def answer (c : Api.Call) (s : ControllerStage) : Api.Reply c × ControllerStage :=
  if c.isWritable then
    let (response, s) := s.request c
    (c.receive response, s)
  else (.error .unwritten, s)

end ControllerStage

/-- The world that controller programs run in. -/
def controllerWorld : World Api.Call Api.Reply Note ControllerStage where
  answer := ControllerStage.answer
  isCancelled := Stage.isCancelled
  pass := Stage.pass
  hear := Stage.hear

end NodeVolumes.Simulation
