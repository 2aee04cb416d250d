import NodeVolumes.Proofs.Engine

/-! # Adopted device claims

A claim is found by the name of its volume only, so a call takes over the claim that an earlier one has left
behind, for another node maybe.

* `BlockDeviceClaim.AsksFor`: a claim asks for the node, the size and the mode of a request.
* `stored_claim_origin`: the claim of a volume on a device asks for what the call asked for that created it.
  This is the call itself unless there has been a claim when it began. -/

namespace NodeVolumes

open Cluster (Call Event Memory)
open Cluster.Memory (TouchesClaim WritesBack)
open Device (claimName)
open Program.Event (calls)

/-- A claim asks for the node, the size and the mode of a request. -/
structure BlockDeviceClaim.AsksFor (claim : BlockDeviceClaim) (request : ProvisionRequest) : Prop where
  hostName : claim.spec.node.hostName = request.hostname
  storage : claim.spec.requests.get? "storage" = request.storage?
  mode : claim.spec.mode = if request.isBlock then .block else .fileSystem

namespace BlockDeviceClaim.AsksFor

variable {claim claim' : BlockDeviceClaim} {request : ProvisionRequest}

theorem of_sameWish (h : claim.AsksFor request) (hwish : claim.SameWish claim') :
    claim'.AsksFor request := by
  obtain ⟨-, hspec⟩ := hwish
  constructor
  · rw [hspec]
    exact h.hostName
  · rw [hspec]
    exact h.storage
  · rw [hspec]
    exact h.mode

theorem toClaim (request : ProvisionRequest) (config : VolumeConfig) (affinity : TextMap) (ns : String) :
    ((Device.deviceRequest request config affinity).toClaim ns).AsksFor request where
  hostName := rfl
  storage := by
    show ((request.storage?.map (KeyMap.singleton "storage")).getD .empty).get? "storage" = _
    cases request.storage? with
    | none => rfl
    | some storage => exact KeyMap.get?_insert_self ..
  mode := rfl

end BlockDeviceClaim.AsksFor

/-! ### One call -/

section
variable {settings : Settings} {request : ProvisionRequest} {t : List Event}
  {r : Except Error LocalVolume} {ns : String}

/-- If a call creates a claim, it is the one of a request and asks for it. -/
def CreatesFor (settings : Settings) (request : ProvisionRequest) (c : Call) : Prop :=
  ∀ ns made, c = .createClaim ns made →
    ns = settings.ns ∧ made.metadata.nameD = claimName request.volume ∧ made.AsksFor request

theorem createsFor_singleton {c : Call} (hc : CreatesFor settings request c) (r : Cluster.Reply c) :
    ∀ d ∈ calls [(.called c r : Event)], CreatesFor settings request d :=
  Program.Event.forall_mem_calls_singleton _ hc r

theorem Device.createsFor_provision (plan : Plan) : (Device.provision settings request plan).Always
    fun t => ∀ c ∈ calls t, CreatesFor settings request c := by
  have hP := Attempt.composable_calls (CreatesFor settings request)
  apply Device.always_provision hP
  · exact createsFor_singleton fun _ _ hc => by cases hc
  · intro affinity
    apply createsFor_singleton
    rintro _ _ ⟨⟩
    exact ⟨rfl, rfl, .toClaim ..⟩
  · apply Device.always_release hP
    · exact createsFor_singleton fun _ _ hc => by cases hc
    · exact fun _ => createsFor_singleton fun _ _ hc => by cases hc
    · exact createsFor_singleton fun _ _ hc => by cases hc
  · exact fun _ => createsFor_singleton fun _ _ hc => by cases hc

theorem asksFor_of_createClaim (h : (provision settings request).Path t r) {made : BlockDeviceClaim}
    (hmade : .createClaim ns made ∈ calls t) :
    ns = settings.ns ∧ made.metadata.nameD = claimName request.volume ∧ made.AsksFor request := by
  have hP := Attempt.composable_calls (CreatesFor settings request)
  refine always_provision hP (fun _ => createsFor_singleton fun _ _ hc => by cases hc) (fun c r hpod => ?_)
    Device.createsFor_provision h _ hmade ns made rfl
  apply createsFor_singleton
  rintro _ _ rfl
  cases hpod

theorem writesBack_of_path {name : String} (h : (provision settings request).Path t r)
    (hname : settings.ns = ns → claimName request.volume = name) : WritesBack ns name t := by
  have hP : Attempt.Composable (WritesBack ns name) := Memory.composable_writesBack
  exact always_provision hP (fun _ => Device.writesBack_singleton rfl)
    (fun c r hpod => Device.writesBack_singleton (Memory.replacesIn?_of_isOnPod hpod) r)
    (fun plan => Device.writesBack_provision hname) h

theorem exists_claim_of_path {faults : Call → Error → Prop} {m m' : Memory} {made : LocalVolume}
    (h : (provision settings request).Path t (.ok made)) (hdevice : made.backing.kind = .device)
    (hrun : Memory.Run faults m t m') :
    ∃ claim, m'.claims.get? ⟨settings.ns, claimName request.volume⟩ = some claim := by
  obtain ⟨u, v, w, plan, rfl, hw, -, hmake⟩ := path_provision_ok h
  unfold makeVolume at hmake
  split at hmake
  · rw [HostPath.provision_eq_ok hmake] at hdevice
    cases hdevice
  · obtain ⟨x, current, y, rfl, hy⟩ := Device.provision_eq_ok hmake
    obtain ⟨m₁, -, hrun₁⟩ := hrun.of_append
    obtain ⟨m₂, hmade, hrest⟩ := hrun₁.of_append
    obtain ⟨m₃, -, hread⟩ := hmade.of_append
    refine ⟨current, ?_⟩
    rw [hrest.claims_of_calls (by rw [hw]; simp)]
    cases hread with
    | called _ hanswer hafter =>
      rw [hafter.claims_of_calls hy]
      obtain ⟨-, -, -, hstored⟩ := hanswer.claims_of_getClaim
      exact hstored
    | silent he _ => cases he

end

/-! ### Calls in turn -/

/-- A call that provisions a volume of a name. -/
def Turn.Provisions (turn : Turn) (volume : String) : Prop :=
  ∃ request, turn.call = .provision request ∧ request.volume = volume

theorem Turn.writesBack {turn : Turn} {volume : String} (h : turn.Provisions volume) (ns : String) :
    WritesBack ns (claimName volume) turn.events := by
  obtain ⟨settings, call, events, result, path⟩ := turn
  obtain ⟨request, rfl, rfl⟩ := h
  exact writesBack_of_path path fun _ => rfl

theorem writesBack_eventsOf {turns : List Turn} {volume : String}
    (h : ∀ turn ∈ turns, turn.Provisions volume) (ns : String) :
    WritesBack ns (claimName volume) (eventsOf turns) := by
  induction turns with
  | nil => exact .nil
  | cons turn turns ih =>
    rw [List.forall_mem_cons] at h
    exact Memory.composable_writesBack.append (turn.writesBack h.1 ns) (ih h.2)

theorem Turn.asksFor {turn : Turn} {volume ns : String} (h : turn.Provisions volume)
    {made : BlockDeviceClaim} (hmade : .createClaim ns made ∈ calls turn.events) :
    ∃ request, turn.call = .provision request ∧ made.metadata.nameD = claimName volume ∧
      made.AsksFor request := by
  obtain ⟨settings, call, events, result, path⟩ := turn
  obtain ⟨request, rfl, rfl⟩ := h
  exact ⟨request, rfl, (asksFor_of_createClaim path hmade).2⟩

/-- What the claim of a volume on a device asks for.

Calls that provision one volume follow each other on a cluster in memory that starts without a claim for it,
where any call may fail or be cancelled and everything but pods and claims may change meanwhile. When a
volume on a device is made in the end, there is a claim for it, and it asks for the node, the size and the
mode that the call asked for which created it: the last one to create it, after which nobody has deleted it.
This is the call itself if there was no claim when it began. -/
theorem stored_claim_origin {faults : Call → Error → Prop} {m₀ m₁ m₂ : Memory} {volume : String}
    {earlier : List Turn} (hearlier : ∀ turn ∈ earlier, turn.Provisions volume) {settings : Settings}
    (hstart : m₀.claims.get? ⟨settings.ns, claimName volume⟩ = none)
    (hbefore : Memory.Run faults m₀ (eventsOf earlier) m₁) {request : ProvisionRequest}
    (hvolume : request.volume = volume) {t : List Event} {made : LocalVolume}
    (hpath : (provision settings request).Path t (.ok made)) (hdevice : made.backing.kind = .device)
    (hrun : Memory.Run faults m₁ t m₂) :
    ∃ claim, m₂.claims.get? ⟨settings.ns, claimName volume⟩ = some claim ∧
      (∃ before creator after wanted u asked stored v,
        earlier ++ [⟨settings, .provision request, t, .ok made, hpath⟩] = before ++ creator :: after ∧
        creator.call = .provision wanted ∧
        creator.events = u ++ .called (.createClaim settings.ns asked) (.ok stored) :: v ∧
        asked.metadata.nameD = claimName volume ∧
        (∀ e ∈ v ++ eventsOf after, ¬TouchesClaim ⟨settings.ns, claimName volume⟩ e) ∧
        claim.AsksFor wanted) ∧
      (m₁.claims.get? ⟨settings.ns, claimName volume⟩ = none → claim.AsksFor request) := by
  subst hvolume
  let turn : Turn := ⟨settings, .provision request, t, .ok made, hpath⟩
  have hturns : ∀ turn' ∈ earlier ++ [turn], turn'.Provisions request.volume := by
    intro turn' hmem
    rcases List.mem_append.1 hmem with hmem | hmem
    · exact hearlier turn' hmem
    · rw [List.mem_singleton.1 hmem]
      exact ⟨request, rfl, rfl⟩
  have hevents : eventsOf (earlier ++ [turn]) = eventsOf earlier ++ t := by
    rw [eventsOf_append, eventsOf_cons, eventsOf_nil, List.append_nil]
  obtain ⟨claim, hclaim⟩ := exists_claim_of_path hpath hdevice hrun
  refine ⟨claim, hclaim, ?_, fun hnone => ?_⟩
  · have hall := hbefore.append hrun
    rw [← hevents] at hall
    rcases hall.claim_origin (writesBack_eventsOf hturns settings.ns) (by simp [hstart]) hclaim with
      ⟨old, hold, -⟩ | ⟨u, asked, stored, v, hsplit, hwish, huntouched⟩
    · rw [hstart] at hold
      cases hold
    · obtain ⟨before, creator, after, x, y, hcreator, hmade, rfl⟩ := exists_turn_of_eventsOf hsplit
      have hprovisions : creator.Provisions request.volume := hturns creator (by rw [hcreator]; simp)
      obtain ⟨wanted, hcall, hname, hasks⟩ := Turn.asksFor hprovisions
        (Program.Event.mem_calls_of_mem (t := creator.events) (r := .ok stored) (by rw [hmade]; simp))
      exact ⟨before, creator, after, wanted, x, asked, stored, y, hcreator, hcall, hmade, hname,
        huntouched, hasks.of_sameWish hwish⟩
  · rcases hrun.claim_origin (writesBack_of_path hpath fun _ => rfl) (by simp [hnone]) hclaim with
      ⟨old, hold, -⟩ | ⟨u, asked, stored, v, rfl, hwish, -⟩
    · rw [hnone] at hold
      cases hold
    · have hmem : .createClaim settings.ns asked ∈
          calls (u ++ .called (.createClaim settings.ns asked) (.ok stored) :: v) := by simp
      exact (asksFor_of_createClaim hpath hmem).2.2.of_sameWish hwish

/-! ### A claim for another node -/

namespace Small

/-- A cluster whose class asks for devices. -/
def deviceCluster : Memory := cluster deviceLayer

/-- The first call selects the first node. It is cancelled while it waits for a device. -/
def interruptedTurn : Turn := .inMemory settings true deviceCluster (.provision (request "node-1"))

/-- After the first call, the claim that it has left behind gets a device. -/
def boundCluster : Memory :=
  ((clusterAfter settings true deviceCluster (.provision (request "node-1"))).bindAfter "bdc-pvc-1"
    ⟨"disk", 1⟩).addDevice "openebs"
      { metadata := { name := some "disk" }, spec := { path := "/dev/sdb" } }

/-- What happens in the second call, which selects the second node. -/
def adoption : List Event := (Memory.world false).trace (provision settings (request "node-2")) boundCluster

/-- The cluster after both calls. -/
def adoptedCluster : Memory := clusterAfter settings false boundCluster (.provision (request "node-2"))

/-- The volume of the second call, which belongs to the second node. -/
def adoptedVolume : LocalVolume where
  name := "pvc-1"
  backing := .device "/dev/sdb" none "bdc-pvc-1"
  nodeAffinity := KeyMap.singleton hostnameLabel "node-2"
  capacity := some "1Gi"
  accessModes := []
  reclaimPolicy := deletePolicy
  volumeMode := filesystemMode
  storageClass := some "local"

theorem provisions_interruptedTurn : ∀ turn ∈ [interruptedTurn], turn.Provisions "pvc-1" := by
  intro turn hturn
  rw [List.mem_singleton.1 hturn]
  exact ⟨request "node-1", rfl, rfl⟩

theorem claims_deviceCluster :
    deviceCluster.claims.get? ⟨settings.ns, claimName "pvc-1"⟩ = none := by decide +kernel

theorem run_interruptedTurn {faults : Call → Error → Prop} :
    Memory.Run faults deviceCluster (eventsOf [interruptedTurn]) boundCluster := by
  have hdrift : Memory.Run faults (clusterAfter settings true deviceCluster
      (.provision (request "node-1"))) [] boundCluster :=
    .done ((Memory.drifts_bindAfter ..).trans (Memory.drifts_addDevice ..))
  exact (Turn.run_inMemory ..).append hdrift

theorem path_adoption :
    (provision settings (request "node-2")).Path adoption (.ok adoptedVolume) := by
  have hresult : ((Memory.world false).run (provision settings (request "node-2")) boundCluster).1 =
      .ok adoptedVolume := by decide +kernel
  exact World.path_of_run hresult

theorem run_adoption {faults : Call → Error → Prop} :
    Memory.Run faults boundCluster adoption adoptedCluster :=
  Memory.run_world false (provision settings (request "node-2")) boundCluster

theorem claim_adoptedCluster :
    ∃ claim, adoptedCluster.claims.get? ⟨settings.ns, claimName "pvc-1"⟩ = some claim ∧
      claim.spec.node.hostName = some "node-1" := by
  have hname : (adoptedCluster.claims.get? ⟨settings.ns, claimName "pvc-1"⟩).bind
      (·.spec.node.hostName) = some "node-1" := by decide +kernel
  exact Option.bind_eq_some_iff.1 hname

end Small

/-- In the second call, the claim asks for what one of the two calls asked for. -/
theorem stored_claim_origin_small :
    ∃ claim, Small.adoptedCluster.claims.get? ⟨"openebs", "bdc-pvc-1"⟩ = some claim ∧
      ∃ nodeName, nodeName ∈ ["node-1", "node-2"] ∧ claim.AsksFor (Small.request nodeName) := by
  have hrun : Memory.Run (fun _ _ => False) Small.boundCluster Small.adoption Small.adoptedCluster :=
    Small.run_adoption
  obtain ⟨claim, hclaim, ⟨before, creator, after, wanted, u, asked, stored, v, hturns, hcall, -, -, -,
      hasks⟩, -⟩ :=
    stored_claim_origin Small.provisions_interruptedTurn Small.claims_deviceCluster
      Small.run_interruptedTurn rfl Small.path_adoption rfl hrun
  refine ⟨claim, hclaim, ?_⟩
  have hmem : creator ∈ [Small.interruptedTurn] ++ [⟨Small.settings, .provision (Small.request "node-2"),
      Small.adoption, .ok Small.adoptedVolume, Small.path_adoption⟩] := by
    rw [hturns]
    simp
  rcases List.mem_append.1 hmem with hfirst | hsecond
  · rw [List.mem_singleton.1 hfirst] at hcall
    cases hcall
    exact ⟨"node-1", by simp, hasks⟩
  · rw [List.mem_singleton.1 hsecond] at hcall
    cases hcall
    exact ⟨"node-2", by simp, hasks⟩

/-- A volume on a device may be made for a node that its claim does not ask for: the claim is left from a
call that was cancelled, for another node. -/
theorem not_claim_asks_for_its_call :
    ¬∀ (faults : Call → Error → Prop) (m₀ m₁ m₂ : Memory) (volume : String) (earlier : List Turn)
        (settings : Settings) (request : ProvisionRequest) (t : List Event) (made : LocalVolume)
        (claim : BlockDeviceClaim),
      (∀ turn ∈ earlier, turn.Provisions volume) → request.volume = volume →
      m₀.claims.get? ⟨settings.ns, claimName volume⟩ = none →
      Memory.Run faults m₀ (eventsOf earlier) m₁ → Memory.Run faults m₁ t m₂ →
      (provision settings request).Path t (.ok made) → made.backing.kind = .device →
      m₂.claims.get? ⟨settings.ns, claimName volume⟩ = some claim → claim.AsksFor request := by
  intro h
  obtain ⟨claim, hget, hname⟩ := Small.claim_adoptedCluster
  have hasks : claim.AsksFor (Small.request "node-2") :=
    h (fun _ _ => False) Small.deviceCluster Small.boundCluster Small.adoptedCluster "pvc-1"
      [Small.interruptedTurn] Small.settings (Small.request "node-2") Small.adoption Small.adoptedVolume claim
      Small.provisions_interruptedTurn rfl Small.claims_deviceCluster Small.run_interruptedTurn
      Small.run_adoption Small.path_adoption rfl hget
  have hnode : (Small.request "node-2").hostname = some "node-2" := by decide +kernel
  rw [hasks.hostName, hnode] at hname
  exact absurd hname (by decide)

end NodeVolumes
