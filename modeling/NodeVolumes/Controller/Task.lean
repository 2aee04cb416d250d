import NodeVolumes.Api.Adapter
import NodeVolumes.Controller.Parked
import NodeVolumes.Provisioner

/-! # Tasks of the controller

The controller calls the API server, and hands the making and the removal of volumes to the engine, which
calls the same server.

* `Task` lists what the controller asks for; `Task.perform` does it by calls of the API server.
* `Work` is the type of controller programs, `Work.perform` turns them into programs of such calls alone. -/

namespace NodeVolumes.Controller

/-- What the controller asks for. -/
inductive Task where
  /-- A call of the API server. -/
  | api (c : Api.Call)
  /-- A volume for a request. -/
  | provision (request : ProvisionRequest)
  /-- The removal of the volume of a persistent volume. -/
  | delete (pv : PersistentVolume)

namespace Task

/-- What comes back from a task. -/
@[reducible] def Reply : Task → Type
  | api c => Api.Reply c
  | provision _ => Except Error LocalVolume
  | delete _ => Except Error Unit

/-- Does a task by calls of the API server. -/
def perform (settings : Settings) : (t : Task) → Api.Client t.Reply
  | api c => Program.ask c
  | provision request => Api.ofEngine (NodeVolumes.provision settings request)
  | delete pv => Api.ofEngine (NodeVolumes.delete settings pv)

end Task

/-- A program of the controller, which remembers parked claims. -/
abbrev Work (α : Type) : Type := StateT Parked (Program Task Task.Reply Note) α

/-- A program of the controller with every task done by calls of the API server. -/
abbrev Pass (α : Type) : Type := StateT Parked (Program Api.Call Api.Reply Note) α

namespace Work

/-- Asks for a task. -/
def ask (t : Task) : Work t.Reply := StateT.lift (Program.ask t)

/-- Makes a call of the API server. -/
def call (c : Api.Call) : Work (Api.Reply c) := ask (.api c)

/-- Logs a message. -/
def log (severity : Severity) (text : String) : Work Unit :=
  StateT.lift (Program.tell (.log severity text))

/-- Looks whether the program has been cancelled. -/
def isCancelled : Work Bool := StateT.lift Program.isCancelled

/-- Waits; the result tells whether the wait was cut short. -/
def wait (ms : Nat) : Work Bool := StateT.lift (Program.wait ms)

/-- Does the tasks of a program. -/
def perform {α : Type} (settings : Settings) (w : Work α) : Pass α :=
  fun parked => (w parked).substitute (Task.perform settings)

end Work

/-- Runs a program of the engine. -/
def engine {α : Type} (p : Engine α) : Pass α := StateT.lift (Api.ofEngine p)

end NodeVolumes.Controller
