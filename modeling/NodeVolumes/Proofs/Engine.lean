import NodeVolumes.Provisioner
import NodeVolumes.Proofs.Device.Claim
import NodeVolumes.Proofs.HostPath.Provision
import NodeVolumes.Proofs.Program.Notes

/-! # Calls of the engine

What a call of the engine does, whatever the cluster answers and whenever it is cancelled.

* `EngineCall`: the calls; `EngineCall.HasTask` tells the helper tasks that a call may run.
* `EngineCall.helperRuns_of_path`: helper pods are only touched by runs of such tasks in turn.
* `path_provision`: a volume is made as planned, or not at all. -/

namespace NodeVolumes

open Cluster (Call Event)
open Program.Event (calls notes)
open HostPath (HelperTask HelperRuns SparesPods composable_sparesPods sparesPods_singleton)

/-- A call of the engine. -/
inductive EngineCall where
  | provision (request : ProvisionRequest)
  | delete (pv : PersistentVolume)

namespace EngineCall

/-- What a call gives when it succeeds. -/
@[reducible] def Result : EngineCall → Type
  | provision _ => LocalVolume
  | delete _ => Unit

/-- The program that serves a call. -/
def program (settings : Settings) : (c : EngineCall) → Engine (Except Error c.Result)
  | provision request => NodeVolumes.provision settings request
  | delete pv => NodeVolumes.delete settings pv

/-- The tasks that a call may run: they work for its volume, on a node that the request or the record of
the volume decides. -/
def HasTask : EngineCall → HelperTask → Prop
  | provision request, task =>
    task.volume = request.volume ∧ ∃ keys, request.affinityLabels keys = .ok task.nodeAffinity
  | delete pv, task =>
    ∃ record, VolumeRecord.ofPersistentVolume pv = .ok record ∧ task.volume = record.name ∧
      record.path = some task.path ∧ task.nodeAffinity = record.nodeAffinity

end EngineCall

section
variable {settings : Settings} {request : ProvisionRequest} {t : List Event}

/-! ### Reports -/

/-- Tells the messages of the log. -/
def Note.isLog : Note → Bool
  | .log .. => true
  | _ => false

/-- What is told in a list of events besides messages of the log. -/
def reports (t : List Event) : List Note := (notes t).filter fun n => !n.isLog

theorem reports_append (t u : List Event) : reports (t ++ u) = reports t ++ reports u := by
  unfold reports
  rw [Program.Event.notes_append, List.filter_append]

/-- Logs a failure, tells what there is to report, and gives the outcome. -/
def report {α : Type} (failure : Error → String) (n : Note) (result : Except Error α) :
    Engine (Except Error α) := do
  match result with
  | .ok _ => pure ()
  | .error e => Program.tell (.log .error (failure e))
  Program.tell n
  return result

theorem path_report {α : Type} {f : Error → String} {n : Note} {result r : Except Error α}
    (hn : n.isLog = false) (h : (report f n result).Path t r) :
    r = result ∧ calls t = [] ∧ reports t = [n] := by
  have hreported : reports [.told n] = [n] := by simp [reports, hn]
  cases result with
  | ok a =>
    obtain ⟨u, rfl, h'⟩ := Program.path_note_iff.1 h
    obtain ⟨rfl, rfl⟩ := Program.path_done_iff.1 h'
    exact ⟨rfl, rfl, hreported⟩
  | error e =>
    obtain ⟨u, rfl, h'⟩ := Program.path_note_iff.1 h
    obtain ⟨v, rfl, h''⟩ := Program.path_note_iff.1 h'
    obtain ⟨rfl, rfl⟩ := Program.path_done_iff.1 h''
    exact ⟨rfl, rfl, hreported⟩

theorem path_reportProvision {volume : String} {kind : Option StorageKind}
    {result r : Except Error LocalVolume} (h : (reportProvision volume kind result).Path t r) :
    r = result ∧ calls t = [] ∧ reports t = [.provisioned kind result.isOk] := by
  refine path_report (f := fun e => "Failed to provision Local PV " ++ volume ++
    " (storage type " ++ kindLabel kind ++ "): " ++ e.message) rfl ?_
  cases result <;> exact h

theorem path_reportDelete {record : VolumeRecord} {result r : Except Error Unit}
    (h : (reportDelete record result).Path t r) :
    r = result ∧ calls t = [] ∧ reports t = [.deleted record.kind result.isOk] := by
  refine path_report (f := fun e => "Failed to delete volume " ++ record.name ++
    " (storage type " ++ record.kind.name ++ "): " ++ e.message) rfl ?_
  cases result <;> exact h

/-! ### Plans -/

theorem always_planVolume {P : List Event → Prop} (hP : Attempt.Composable P)
    (hclass : ∀ name r, P [.called (.getStorageClass name) r]) :
    (planVolume settings request).Always P := by
  unfold planVolume
  refine Attempt.always_bind hP (Attempt.always_check hP _) fun _ => ?_
  split
  · exact Attempt.always_throw hP _
  · exact Attempt.always_bind hP (Attempt.always_call (hclass _)) fun _ => Attempt.always_check hP _

theorem path_planVolume_ok {plan : Plan} (h : (planVolume settings request).Path t (.ok plan)) :
    request.check = .ok () ∧ ∃ name cls, request.storageClass? = some name ∧
      t = [.called (.getStorageClass name) (.ok cls)] ∧ planFor settings request cls = .ok plan := by
  unfold planVolume at h
  rcases Attempt.path_check_bind_iff.1 h with ⟨e, -, -, he⟩ | ⟨_, hcheck, h₁⟩
  · cases he
  refine ⟨hcheck, ?_⟩
  split at h₁
  · cases (Attempt.path_throw_iff.1 h₁).2
  · rcases Attempt.path_call_bind_iff.1 h₁ with ⟨e, -, he⟩ | ⟨cls, u, rfl, h₂⟩
    · cases he
    obtain ⟨rfl, hplan⟩ := Attempt.path_check_iff.1 h₂
    exact ⟨_, cls, ‹_›, rfl, hplan.symm⟩

theorem planFor_eq_ok {cls : StorageClass} {plan : Plan} (h : planFor settings request cls = .ok plan) :
    VolumeConfig.resolve request.volume settings.defaultLayer (configLayer cls.metadata)
      (configLayer request.claim.metadata) = .ok plan.config := by
  unfold planFor at h
  obtain ⟨config, hconfig, h₁⟩ := except_bind_eq_ok_iff.1 h
  obtain ⟨kind, -, hplan⟩ := except_bind_eq_ok_iff.1 h₁
  cases hplan
  exact hconfig

/-- A volume is made as planned, or not at all when there is no plan. -/
theorem path_provision {r : Except Error LocalVolume} (h : (provision settings request).Path t r) :
    ∃ u v w, t = u ++ (v ++ w) ∧ calls w = [] ∧
      ((∃ e, (planVolume settings request).Path u (.error e) ∧ v = [] ∧ r = .error e) ∨
        ∃ plan, (planVolume settings request).Path u (.ok plan) ∧
          (makeVolume settings request plan).Path v r) := by
  unfold provision at h
  obtain ⟨u, v, plan, rfl, hplan, h₁⟩ := Program.path_bind_iff.1 h
  cases plan with
  | error e =>
    obtain ⟨rfl, hv, -⟩ := path_reportProvision h₁
    exact ⟨u, [], v, rfl, hv, .inl ⟨e, hplan, rfl, rfl⟩⟩
  | ok plan =>
    obtain ⟨v, w, result, rfl, hmake, h₂⟩ := Program.path_bind_iff.1 h₁
    obtain ⟨rfl, hw, -⟩ := path_reportProvision h₂
    exact ⟨u, v, w, rfl, hw, .inr ⟨plan, hplan, hmake⟩⟩

theorem path_provision_ok {made : LocalVolume} (h : (provision settings request).Path t (.ok made)) :
    ∃ u v w plan, t = u ++ (v ++ w) ∧ calls w = [] ∧ (planVolume settings request).Path u (.ok plan) ∧
      (makeVolume settings request plan).Path v (.ok made) := by
  obtain ⟨u, v, w, rfl, hw, ⟨e, -, -, he⟩ | ⟨plan, hplan, hmake⟩⟩ := path_provision h
  · cases he
  · exact ⟨u, v, w, plan, rfl, hw, hplan, hmake⟩

theorem name_of_provision {made : LocalVolume} (h : (provision settings request).Path t (.ok made)) :
    made.name = request.volume := by
  obtain ⟨_, _, _, plan, -, -, -, hmake⟩ := path_provision_ok h
  unfold makeVolume at hmake
  split at hmake
  · obtain ⟨_, _, _, _, _, -, -, -, -, -, -, rfl⟩ := HostPath.path_provision_ok hmake
    rfl
  · obtain ⟨_, _, -, -, -, rfl⟩ := Device.path_provision_ok hmake
    rfl

/-- A property of events holds of a provision call when it holds of the reading of classes, of calls on pods
and of the making of volumes on devices. -/
theorem always_provision {P : List Event → Prop} (hP : Attempt.Composable P)
    (hclass : ∀ name r, P [.called (.getStorageClass name) r])
    (hpod : ∀ c r, c.isOnPod = true → P [.called c r])
    (hdevice : ∀ plan, (Device.provision settings request plan).Always P)
    {r : Except Error LocalVolume} (h : (provision settings request).Path t r) : P t := by
  obtain ⟨u, v, w, rfl, hw, hmade⟩ := path_provision h
  have hplan : (planVolume settings request).Always P := always_planVolume hP hclass
  rcases hmade with ⟨e, hu, rfl, -⟩ | ⟨plan, hu, hv⟩
  · exact hP.append (hplan u _ hu) (hP.append hP.nil (hP.of_calls_eq_nil hw))
  · refine hP.append (hplan u _ hu) (hP.append ?_ (hP.of_calls_eq_nil hw))
    unfold makeVolume at hv
    split at hv
    · exact (HostPath.helperRuns_provision hv).always hP hpod
    · exact hdevice plan v r hv

theorem path_delete {pv : PersistentVolume} {r : Except Error Unit}
    (h : (delete settings pv).Path t r) :
    t = [] ∨ ∃ record u v, VolumeRecord.ofPersistentVolume pv = .ok record ∧ t = u ++ v ∧
      calls v = [] ∧ (removeVolume settings record).Path u r := by
  unfold delete at h
  split at h
  case h_1 => exact .inl (Program.path_done_iff.1 h).1
  case h_2 record hrecord =>
    split at h
    · exact .inl (Program.path_done_iff.1 h).1
    · obtain ⟨u, v, result, rfl, hremove, h'⟩ := Program.path_bind_iff.1 h
      obtain ⟨rfl, hv, -⟩ := path_reportDelete h'
      exact .inr ⟨record, u, v, hrecord, rfl, hv, hremove⟩

theorem path_delete_ok {pv : PersistentVolume} (h : (delete settings pv).Path t (.ok ())) :
    ∃ record, VolumeRecord.ofPersistentVolume pv = .ok record ∧ (record.isRetained = true ∨
      ∃ u v, t = u ++ v ∧ calls v = [] ∧ (removeVolume settings record).Path u (.ok ())) := by
  unfold delete at h
  split at h
  case h_1 => cases (Program.path_done_iff.1 h).2
  case h_2 record hrecord =>
    refine ⟨record, hrecord, ?_⟩
    split at h
    · exact .inl ‹_›
    · obtain ⟨u, v, result, rfl, hremove, h'⟩ := Program.path_bind_iff.1 h
      obtain ⟨rfl, hv, -⟩ := path_reportDelete h'
      exact .inr ⟨u, v, rfl, hv, hremove⟩

/-- A property of events holds of a delete call when it holds of the listing of nodes, of calls on pods and
of the release of devices. -/
theorem always_delete {P : List Event → Prop} (hP : Attempt.Composable P) {pv : PersistentVolume}
    (hlist : ∀ labels r, P [.called (.listNodes labels) r])
    (hpod : ∀ c r, c.isOnPod = true → P [.called c r])
    (hdevice : ∀ record claim, VolumeRecord.ofPersistentVolume pv = .ok record →
      record.claimName = some claim → (Device.release settings claim).Always P)
    {r : Except Error Unit} (h : (delete settings pv).Path t r) : P t := by
  rcases path_delete h with rfl | ⟨record, u, v, hrecord, rfl, hv, hu⟩
  · exact hP.nil
  · refine hP.append ?_ (hP.of_calls_eq_nil hv)
    unfold removeVolume at hu
    split at hu
    · exact HostPath.always_delete hP hlist hpod u r hu
    · unfold Device.delete at hu
      split at hu
      · exact Attempt.always_pure hP _ u r hu
      · exact hdevice record _ hrecord ‹_› u r hu

/-! ### Helper pods -/

theorem sparesPods_deviceProvision (plan : Plan) :
    (Device.provision settings request plan).Always SparesPods :=
  Device.always_provision composable_sparesPods (sparesPods_singleton rfl)
    (fun _ => sparesPods_singleton rfl)
    (Device.always_release composable_sparesPods (sparesPods_singleton rfl)
      (fun _ => sparesPods_singleton rfl) (sparesPods_singleton rfl))
    fun _ => sparesPods_singleton rfl

theorem sparesPods_deviceDelete (record : VolumeRecord) :
    (Device.delete settings record).Always SparesPods := by
  unfold Device.delete
  split
  · exact Attempt.always_pure composable_sparesPods _
  · exact Device.always_release composable_sparesPods (sparesPods_singleton rfl)
      (fun _ => sparesPods_singleton rfl) (sparesPods_singleton rfl)

/-- In a call, helper pods are only touched by runs of its tasks in turn. -/
theorem EngineCall.helperRuns_of_path {call : EngineCall} {r : Except Error call.Result}
    (h : (call.program settings).Path t r) :
    ∃ u v, t = u ++ v ∧ SparesPods u ∧ HelperRuns settings call.HasTask v r := by
  cases call with
  | provision request =>
    obtain ⟨u, v, w, rfl, hw, hmade⟩ := path_provision h
    have hplan : (planVolume settings request).Always SparesPods :=
      always_planVolume composable_sparesPods fun _ => sparesPods_singleton rfl
    rcases hmade with ⟨e, hu, rfl, rfl⟩ | ⟨plan, hu, hv⟩
    · exact ⟨u, w, rfl, hplan u _ hu, .ended hw⟩
    · unfold makeVolume at hv
      split at hv
      · exact ⟨u, v ++ w, rfl, hplan u _ hu, (HostPath.helperRuns_provision hv).append hw⟩
      · refine ⟨u ++ v, w, (List.append_assoc ..).symm, ?_, .ended hw⟩
        exact composable_sparesPods.append (hplan u _ hu) (sparesPods_deviceProvision plan v _ hv)
  | delete pv =>
    rcases path_delete h with rfl | ⟨record, u, v, hrecord, rfl, hv, hu⟩
    · exact ⟨[], [], rfl, composable_sparesPods.nil, .ended rfl⟩
    · unfold removeVolume at hu
      split at hu
      · obtain ⟨u, w, rfl, hspares, hruns⟩ := HostPath.helperRuns_delete hu
        refine ⟨u, w ++ v, List.append_assoc .., hspares, (hruns.append hv).mono ?_⟩
        rintro task ⟨hvolume, hpath, haffinity⟩
        exact ⟨record, hrecord, hvolume, hpath, haffinity⟩
      · exact ⟨u, v, rfl, sparesPods_deviceDelete record u _ hu, .ended hv⟩

/-- Every creation of a pod in a call is one by a run of a task of the call, and what follows it is the
rest of this run. -/
theorem EngineCall.created_of_path {call : EngineCall} {r : Except Error call.Result}
    (h : (call.program settings).Path t r) {pre post : List Event} {ns : String} {pod : Pod}
    {reply : Except Error Pod} (ht : t = pre ++ .called (.createPod ns pod) reply :: post) :
    HelperRuns.Created settings call.HasTask ns pod reply post r := by
  obtain ⟨u, v, rfl, hu, hruns⟩ := call.helperRuns_of_path h
  rcases Program.append_eq_append_cons ht with ⟨w, rfl, -⟩ | ⟨w, -, hv⟩
  · cases hu (.createPod ns pod) (by simp)
  · exact hruns.created hv

end

/-! ### Calls in a cluster in memory -/

/-- A call that has ended, with everything that happened while it ran. -/
structure Turn where
  settings : Settings
  call : EngineCall
  events : List Event
  result : Except Error call.Result
  path : (call.program settings).Path events result

/-- Everything that happened in calls one after the other. -/
def eventsOf (turns : List Turn) : List Event := turns.flatMap (·.events)

theorem eventsOf_nil : eventsOf [] = [] := rfl

theorem eventsOf_append (turns turns' : List Turn) :
    eventsOf (turns ++ turns') = eventsOf turns ++ eventsOf turns' := List.flatMap_append

theorem eventsOf_cons (turn : Turn) (turns : List Turn) :
    eventsOf (turn :: turns) = turn.events ++ eventsOf turns := List.flatMap_cons

theorem exists_turn_of_eventsOf {turns : List Turn} {pre post : List Event} {e : Event}
    (h : eventsOf turns = pre ++ e :: post) :
    ∃ before turn after u v, turns = before ++ turn :: after ∧ turn.events = u ++ e :: v ∧
      post = v ++ eventsOf after := by
  induction turns generalizing pre with
  | nil => simp [eventsOf] at h
  | cons turn turns ih =>
    rw [eventsOf_cons] at h
    rcases Program.append_eq_append_cons h with ⟨v, hv, rfl⟩ | ⟨v, -, hv⟩
    · exact ⟨[], turn, turns, pre, v, rfl, hv, rfl⟩
    · obtain ⟨before, found, after, u, w, rfl, hfound, rfl⟩ := ih hv
      exact ⟨turn :: before, found, after, u, w, rfl, hfound, rfl⟩

/-- The cluster after a call that is cancelled from the start or not at all. -/
def clusterAfter (settings : Settings) (cancelled : Bool) (m : Cluster.Memory) (call : EngineCall) :
    Cluster.Memory := ((Cluster.Memory.world cancelled).run (call.program settings) m).2

/-- The call as it goes in a cluster in memory, in which it is cancelled from the start or not at all. -/
def Turn.inMemory (settings : Settings) (cancelled : Bool) (m : Cluster.Memory) (call : EngineCall) :
    Turn where
  settings
  call
  events := (Cluster.Memory.world cancelled).trace (call.program settings) m
  result := ((Cluster.Memory.world cancelled).run (call.program settings) m).1
  path := World.path_run _ _ _

theorem Turn.run_inMemory {faults : Call → Error → Prop} (settings : Settings) (cancelled : Bool)
    (m : Cluster.Memory) (call : EngineCall) :
    Cluster.Memory.Run faults m (Turn.inMemory settings cancelled m call).events
      (clusterAfter settings cancelled m call) :=
  Cluster.Memory.run_world cancelled (call.program settings) m

/-! ### A small cluster

Inputs for examples: two nodes, a class with a configuration layer and a claim that asks for it. -/

namespace Small

/-- Settings that only name a service account. -/
def settings : Settings := { serviceAccount := "openebs" }

/-- A node that carries its name as host name. -/
def node (name : String) : Node :=
  { metadata := { name := some name, labels := some (KeyMap.singleton hostnameLabel name) } }

/-- A storage class with a configuration layer. -/
def storageClass (layer : String) : StorageClass where
  metadata :=
    { name := some "local", annotations := some (KeyMap.singleton configLayerKey layer) }
  provisioner := "openebs.io/local"

/-- A cluster with two nodes and the class with a configuration layer. -/
def cluster (layer : String) : Cluster.Memory :=
  (({} : Cluster.Memory).addNode (node "node-1")).addNode (node "node-2")
    |>.addStorageClass (storageClass layer)

/-- The request for a volume of the class on a node. -/
def request (nodeName : String) : ProvisionRequest where
  volume := "pvc-1"
  claim :=
    { metadata := { name := some "data" }
      spec := some
        { storageClassName := some "local"
          resources := some { requests := some (KeyMap.singleton "storage" "1Gi") } } }
  node := some (node nodeName)

/-- The persistent volume for a directory on the first node. -/
def volume (path : String) : PersistentVolume :=
  LocalVolume.toPersistentVolume
    { name := "pvc-1"
      backing := .hostPath path
      nodeAffinity := KeyMap.singleton hostnameLabel "node-1"
      capacity := some "1Gi"
      accessModes := [readWriteOnce]
      reclaimPolicy := deletePolicy
      volumeMode := filesystemMode
      storageClass := some "local" }

/-- The task that removes a path of the volume. -/
def cleanupTask (path : String) : HelperTask where
  operation := .cleanup
  volume := "pvc-1"
  path
  nodeAffinity := KeyMap.singleton hostnameLabel "node-1"
  taints := []

/-- The pod that runs a command on the directory of the volume below another one. -/
def helperPod (op : HostPath.HelperOperation) (command : List String) (above : String) : Pod where
  metadata := { name := some (op.name ++ "-pvc-1"), ns := some "openebs" }
  spec := some
    { containers := [HostPath.helperContainer op defaultHelperImage command]
      volumes := some [HostPath.directory "data" above, HostPath.directory "dev" HostPath.devMount]
      restartPolicy := some "Never"
      serviceAccountName := some "openebs"
      affinity := some
        { nodeAffinity := some
            { required := some (NodeSelector.ofLabels (KeyMap.singleton hostnameLabel "node-1")) } }
      tolerations := some [] }

/-- The pod that removes the directory of the volume below another one. -/
def cleanupPod (above : String) : Pod := helperPod .cleanup ["rm", "-rf", "/data/pvc-1"] above

/-- A layer that sets the mode of directories. -/
def modeLayer (mode : String) : String :=
  "- name: FilePermissions\n  data:\n    mode: \"" ++ mode ++ "\"\n"

/-- A layer that asks for devices. -/
def deviceLayer : String := "- name: StorageType\n  value: device\n"

end Small

end NodeVolumes
