import NodeVolumes.Proofs.Controller.Server
import NodeVolumes.Proofs.Engine

/-! # Removal of persistent volumes

A persistent volume is removed when a pass has found it released and the engine has deleted its volume. Nothing
else is done to the persistent volumes that a pass lists.

* `HandlesVolumes`: what a pass may do to persistent volumes.
* `calls_of_retained`: the engine leaves volumes alone that are to be retained.
* `volumes_are_handled`: all passes handle persistent volumes in this way. -/

namespace NodeVolumes.Controller

open Program (Expands)
open Program.Event (calls)

variable {o : Options} {p q : Parked} {log : List Event} {t : List Api.Event}

/-! ### What the controller does -/

theorem PassShape.split (h : PassShape o p log q) :
    ∃ front tail cancelled, log = front ++ tail ∧ (∀ e ∈ front, isForClaims e = true) ∧
      VolumesPart o cancelled tail := by
  cases h with
  | unlisted haside _ =>
    exact ⟨log, [], true, by simp, fun e he => isForClaims_of_isAside (haside e he), .cancelled⟩
  | @visited classes claims rest visits cancelled tail q _ _ hvisits htail =>
    refine ⟨listing .storageClass (.ok classes) :: listing .persistentVolumeClaim (.ok claims) ::
      (eventsIn visits ++ ending cancelled), tail, cancelled, by simp, ?_, htail⟩
    refine List.forall_mem_cons.2 ⟨rfl, List.forall_mem_cons.2 ⟨rfl, List.forall_mem_append.2 ⟨?_, ?_⟩⟩⟩
    · intro e he
      obtain ⟨v, hv, he⟩ := List.mem_flatMap.1 he
      rcases List.mem_cons.1 he with rfl | he
      · rfl
      · exact isForClaims_of_visit (hvisits.path_of_mem v hv) e he
    · exact fun e he => isForClaims_of_isAside (isAside_ending e he)

theorem VolumesPart.removed {cancelled : Bool} {tail pre post : List Event} {ns : Option String}
    {name : String} {reply : Api.Reply (.delete .persistentVolume ns name)}
    (h : VolumesPart o cancelled tail)
    (htail : tail = pre ++ .called (.api (.delete .persistentVolume ns name)) reply :: post) :
    ∃ volumes pv before, pre = before ++ [.called (.delete pv) (.ok ())] ∧
      listing .persistentVolume (.ok volumes) ∈ before ∧ pv ∈ volumes ∧
      isReleased pv o.provisioner = true ∧ pv.metadata.nameD = name := by
  cases h with
  | cancelled => simp at htail
  | unlisted =>
    obtain ⟨v, -, hv⟩ := Program.cons_eq_of_ne htail (by simp [listing])
    simp at hv
  | @visited volumes rest visits p q cancelled hvolumes hvisits =>
    obtain ⟨v, rfl, hv⟩ := Program.cons_eq_of_ne htail (by simp [listing])
    rcases Program.append_eq_append_cons hv with ⟨x, hx, -⟩ | ⟨x, -, hx⟩
    · obtain ⟨earlier, visit, later, u, w, rfl, hevents, rfl, -⟩ := exists_visit_of_eventsIn hx
      have hvisit := hvisits.path_of_mem visit (by simp)
      have hmem : visit.item ∈ volumes := by simp [hvolumes]
      have hdisposed := (disposed_of_path hvisit).1
      generalize hw : visit.events = events at hdisposed
      rw [hw] at hevents
      cases hdisposed with
      | leftAlone _ => simp at hevents
      | failed _ =>
        obtain ⟨y, -, hy⟩ := Program.cons_eq_of_ne hevents (by simp)
        obtain ⟨z, -, hz⟩ := Program.cons_eq_of_ne hy (by simp)
        simp at hz
      | removed hreleased htold =>
        obtain ⟨y, rfl, hy⟩ := Program.cons_eq_of_ne hevents (by simp)
        cases y with
        | nil =>
          cases hy
          refine ⟨volumes, visit.item, listing .persistentVolume (.ok volumes) ::
            (eventsIn earlier ++ [.polled false]), by simp, by simp, hmem, hreleased, rfl⟩
        | cons e y =>
          obtain ⟨-, rfl⟩ := List.cons.inj (hy.trans (List.cons_append ..))
          cases htold (.called (.api (.delete .persistentVolume ns name)) reply) (by simp)
    · have haside := isAside_ending (.called (.api (.delete .persistentVolume ns name)) reply)
        (by rw [hx]; simp)
      cases haside

theorem VolumesPart.split {cancelled : Bool} {tail : List Event} (h : VolumesPart o cancelled tail) :
    ∃ listed visits back, tail = listed ++ (eventsIn visits ++ back) ∧
      (∀ e ∈ listed, isAside e = true) ∧ (∀ e ∈ back, isAside e = true) ∧
      (∀ v ∈ visits, Disposed o v.item v.events) ∧
      (visits ≠ [] → ∃ volumes rest, listing .persistentVolume (.ok volumes) ∈ listed ∧
        volumes = visits.map (·.item) ++ rest) := by
  cases h with
  | cancelled => exact ⟨[], [], [], rfl, by simp, by simp, by simp, by simp⟩
  | unlisted => exact ⟨[_], [], [], rfl, by simp [listing, isAside, writesVolume], by simp, by simp, by simp⟩
  | @visited volumes rest visits p q cancelled hvolumes hvisits =>
    refine ⟨[_], visits, ending cancelled, rfl, by simp [listing, isAside, writesVolume], isAside_ending,
      ?_, ?_⟩
    · intro v hv
      exact (disposed_of_path (hvisits.path_of_mem v hv)).1
    · intro _
      exact ⟨volumes, rest, by simp, hvolumes⟩

theorem PassShape.created {pre post : List Event} {ns : Option String} {pv : PersistentVolume}
    {reply : Api.Reply (.create .persistentVolume ns pv)} (h : PassShape o p log q)
    (hlog : log = pre ++ .called (.api (.create .persistentVolume ns pv)) reply :: post) :
    ∃ request made, pv = volumeFor o request.claim made ∧
      .called (.provision request) (.ok made) ∈ pre := by
  obtain ⟨classes, claims, rest, earlier, visit, later, cancelled, u, w, tail, -, hvisits, -, hevents, rfl,
    -⟩ := h.visit_of_made hlog (by simp [creation?])
  have hvisit := hvisits.path_of_mem visit (by simp)
  obtain ⟨volume, found, node, made, x, -, rfl, rfl⟩ := created_of_visit hvisit hevents
  exact ⟨⟨volume, visit.item, node⟩, made, rfl, by simp⟩

theorem PassShape.provisioned {pre post : List Event} {request : ProvisionRequest}
    {outcome : Except Error LocalVolume} (h : PassShape o p log q)
    (hlog : log = pre ++ .called (.provision request) outcome :: post) :
    ∃ found, isAbsent found = true ∧ lookup .persistentVolume request.volume found ∈ pre := by
  obtain ⟨classes, claims, rest, earlier, visit, later, cancelled, u, w, tail, -, hvisits, -, hevents, rfl,
    -⟩ := h.visit_of_made hlog (by simp [provision?])
  have hvisit := hvisits.path_of_mem visit (by simp)
  have hmem : .called (.provision request) outcome ∈ visit.events := by simp [hevents]
  obtain ⟨hdue, -, -, hvolume⟩ := provisioned_of_visit hvisit hmem
  obtain ⟨found, others, habsent, hlook⟩ := hdue.events_eq hvolume
  obtain ⟨x, rfl, -⟩ := Program.cons_eq_of_ne (hlook.symm.trans hevents) (by simp [lookup])
  exact ⟨found, habsent, by simp⟩

/-! ### What it comes to on the server -/

/-- What a pass may do to persistent volumes: `log` is what the controller does in it, and `t` are the calls of
the API server that this comes to. -/
structure HandlesVolumes (o : Options) (log : List Event) (t : List Api.Event) : Prop where
  /-- Claims are visited first. Then the listed volumes are visited in turn, and each is left alone unless it is
  a released one of ours. -/
  visited : ∃ front visits back, log = front ++ (eventsIn visits ++ back) ∧
    (∀ e ∈ front, isForClaims e = true) ∧ (∀ e ∈ back, isAside e = true) ∧
    (∀ v ∈ visits, Disposed o v.item v.events) ∧
    (visits ≠ [] → ∃ volumes rest, listing .persistentVolume (.ok volumes) ∈ front ∧
      volumes = visits.map (·.item) ++ rest)
  /-- A volume is provisioned after its persistent volume has been looked up and found absent. -/
  provisioned : ∀ {pre post : List Event} {request : ProvisionRequest} {outcome : Except Error LocalVolume},
    log = pre ++ .called (.provision request) outcome :: post →
    ∃ found, isAbsent found = true ∧ lookup .persistentVolume request.volume found ∈ pre
  /-- A persistent volume is created after its volume has been provisioned, and has its name. -/
  created : ∀ {pre post : List Event} {ns : Option String} {pv : PersistentVolume}
    {reply : Api.Reply (.create .persistentVolume ns pv)},
    log = pre ++ .called (.api (.create .persistentVolume ns pv)) reply :: post →
    ∃ request made, pv = volumeFor o request.claim made ∧ pv.metadata.name = some request.volume ∧
      .called (.provision request) (.ok made) ∈ pre
  /-- The engine makes no calls about persistent volumes, all of them are the controller's own. -/
  asked : ∀ c ∈ calls t, c.kind = .persistentVolume → Task.api c ∈ calls log
  /-- A persistent volume is removed when it has been listed as a released one of ours, directly after the engine
  has deleted its volume. -/
  removed : ∀ {pre post : List Api.Event} {ns : Option String} {name : String}
    {reply : Api.Reply (.delete .persistentVolume ns name)},
    t = pre ++ .called (.delete .persistentVolume ns name) reply :: post →
    ∃ volumes pv before u, pre = before ++ u ∧
      .called (.list .persistentVolume none none) (.ok volumes) ∈ before ∧ pv ∈ volumes ∧
      pv.metadata.nameD = name ∧ pv.status.bind (·.phase) = some "Released" ∧
      pv.spec.bind (·.reclaimPolicy) = some deletePolicy ∧
      annotation? pv.metadata provisionedByKey = some o.provisioner ∧
      pv.metadata.deletionTimestamp = none ∧ (Api.ofEngine (delete o.settings pv)).Path u (.ok ())

theorem handlesVolumes_of_pass (h : PassShape o p log q) (hexpands : Expands (Task.perform o.settings) log t) :
    HandlesVolumes o log t where
  visited := by
    obtain ⟨front, tail, cancelled, rfl, hfront, htail⟩ := h.split
    obtain ⟨listed, visits, back, rfl, hlisted, hback, hvisits, hvolumes⟩ := htail.split
    refine ⟨front ++ listed, visits, back, by simp, List.forall_mem_append.2 ⟨hfront, ?_⟩, hback, hvisits, ?_⟩
    · exact fun e he => isForClaims_of_isAside (hlisted e he)
    · intro hne
      obtain ⟨volumes, rest, hmem, heq⟩ := hvolumes hne
      exact ⟨volumes, rest, List.mem_append_right _ hmem, heq⟩
  provisioned := h.provisioned
  created := by
    intro pre post ns pv reply hlog
    obtain ⟨request, made, rfl, hmem⟩ := h.created hlog
    obtain ⟨u, v, w, -, hpath⟩ := hexpands.path_of_mem (c := .provision request) (r := .ok made)
      (by simp [hlog, hmem])
    obtain ⟨x, hx, -⟩ := Program.path_substitute_iff.1 hpath
    have hname : made.name = request.volume := name_of_provision hx
    exact ⟨request, made, rfl, congrArg some hname, hmem⟩
  asked := by
    intro c hc hkind
    obtain ⟨r, hmem⟩ := Program.Event.exists_mem_of_mem_calls hc
    obtain ⟨pre, post, rfl⟩ := List.append_of_mem hmem
    obtain ⟨before, after, rfl, -⟩ := source_of_kind hexpands hkind
    simp
  removed := by
    rintro pre post ns name reply rfl
    obtain ⟨log₁, log₂, rfl, hbefore⟩ := source_of_kind hexpands rfl
    obtain ⟨front, tail, cancelled, hlog, hfront, htail⟩ := h.split
    obtain ⟨v, rfl, hv⟩ := Program.append_eq_of_not_mem hlog.symm fun hmem => by
      cases hfront _ hmem
    obtain ⟨volumes, pv, listed, rfl, hlisted, hmem, hreleased, hname⟩ := htail.removed hv
    rw [← List.append_assoc] at hbefore
    obtain ⟨x, y, rfl, hx, hy⟩ := hbefore.of_append
    cases hy with
    | @called _ _ _ u w hdeleted hnil =>
      cases hnil
      obtain ⟨hphase, hpolicy, hours, hstays⟩ := isReleased_iff.1 hreleased
      refine ⟨volumes, pv, x, u, by rw [List.append_nil], ?_, hmem, hname, hphase, hpolicy, hours, hstays,
        hdeleted⟩
      exact mem_of_api hx (List.mem_append_right _ hlisted)

theorem isRetained_of_policy {pv : PersistentVolume} {record : VolumeRecord}
    (hpolicy : pv.spec.bind (·.reclaimPolicy) = some retainPolicy)
    (h : VolumeRecord.ofPersistentVolume pv = .ok record) : record.isRetained = true := by
  unfold VolumeRecord.ofPersistentVolume at h
  split at h
  · cases h
  · cases h
    simp [VolumeRecord.isRetained, hpolicy]

/-- The engine makes no call to delete a volume that is to be retained. -/
theorem calls_of_retained {settings : Settings} {pv : PersistentVolume} {t : List Cluster.Event}
    {r : Except Error Unit} (hpolicy : pv.spec.bind (·.reclaimPolicy) = some retainPolicy)
    (h : (delete settings pv).Path t r) : calls t = [] := by
  unfold delete at h
  split at h
  case h_1 =>
    obtain ⟨rfl, -⟩ := Program.path_done_iff.1 h
    rfl
  case h_2 record hrecord =>
    have hretained : record.isRetained = true := isRetained_of_policy hpolicy hrecord
    rw [if_pos hretained] at h
    obtain ⟨rfl, -⟩ := Program.path_done_iff.1 h
    rfl

/-- In any number of passes, a persistent volume is removed only when the pass has listed it as a released one of
ours and the engine has deleted its volume, and the other listed ones are left alone; the engine itself leaves
volumes alone that are to be retained. -/
theorem volumes_are_handled {runs : List (List Event × List Api.Event)} (h : Passes o p runs q) :
    (∀ run ∈ runs, HandlesVolumes o run.1 run.2) ∧
      ∀ (settings : Settings) (pv : PersistentVolume) (u : List Cluster.Event) (r : Except Error Unit),
        pv.spec.bind (·.reclaimPolicy) = some retainPolicy → (delete settings pv).Path u r →
          calls u = [] := by
  refine ⟨?_, fun settings pv u r hpolicy hdelete => calls_of_retained hpolicy hdelete⟩
  induction h with
  | nil => simp
  | cons hpass hexpands _ ih =>
    exact List.forall_mem_cons.2 ⟨handlesVolumes_of_pass (passShape_of_path hpass) hexpands, ih⟩

namespace Small

/-- A released volume on a device whose claim is gone. -/
def releasedVolume : PersistentVolume where
  metadata :=
    { name := some "pvc-1"
      labels := some (KeyMap.singleton storageKindLabel StorageKind.device.label)
      annotations := some (KeyMap.singleton provisionedByKey "openebs.io/local") }
  spec := some { reclaimPolicy := some deletePolicy }
  status := some { phase := some "Released" }

/-- What a pass comes to where this is the only object. -/
def removalEvents : List Api.Event :=
  (server [] [] [releasedVolume]).trace ((reconcileOnce {}).run {}) ()

end Small

theorem volumes_are_handled_released : ∃ log q, Passes {} {} [(log, Small.removalEvents)] q ∧
    HandlesVolumes {} log Small.removalEvents ∧
    .delete .persistentVolume none "pvc-1" ∈ calls Small.removalEvents := by
  have hpath := World.path_run (Small.server [] [] [Small.releasedVolume]) ((reconcileOnce {}).run {}) ()
  obtain ⟨log, hlog, hexpands⟩ := path_reconcileOnce_iff.1 hpath
  have hpasses : Passes {} {} [(log, Small.removalEvents)] _ := .cons hlog hexpands (.nil _)
  have hhandled := (volumes_are_handled hpasses).1 (log, Small.removalEvents) (by simp)
  refine ⟨log, _, hpasses, hhandled, ?_⟩
  have hcalls : calls Small.removalEvents = [.list .storageClass none none,
      .list .persistentVolumeClaim none none, .list .persistentVolume none none,
      .delete .persistentVolume none "pvc-1"] := rfl
  simp [hcalls]

end NodeVolumes.Controller
