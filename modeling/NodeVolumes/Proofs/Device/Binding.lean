import NodeVolumes.Proofs.Cluster.Creation
import NodeVolumes.Proofs.Cluster.Separation
import NodeVolumes.Proofs.Device.Claim

/-! # Claims that find their device

A claim in memory is bound by the reads of it, so every read brings it nearer to its device, whoever makes
it. A call that would find the device finds it after calls that have been broken off as well, and with no
more waiting than before.

* `Memory.deviceAfter key n`: the device that the claim under a key has after some more reads of it.
* `Call.Seeks`: calls that only read the claim or create it; they never put the device further away.
* `Device.Look`: what one look of the loop that awaits the device comes to.
* `Finds`: a call that binds a device finds a given one. `finds_of_bind` and `Finds.bind_eq` say that this
  is so exactly when the call succeeds, and `Finds.seeks` that even a disturbed call does not give the claim
  up. -/

namespace NodeVolumes

/-- The trimmed name of a device, unless it is blank. -/
def BlockDeviceClaim.deviceNamed? (device : String) : Option String :=
  if Text.trim device = "" then none else some (Text.trim device)

theorem BlockDeviceClaim.boundDevice?_of_spec {c c' : BlockDeviceClaim} (h : c'.spec = c.spec) :
    c'.boundDevice? = c.boundDevice? := by
  unfold boundDevice?
  rw [h]

namespace Cluster

open BlockDeviceClaim (deviceNamed?)
open Program.Event (calls forall_mem_calls_cons)

/-- A call that reads the claim under a key or creates it without a device, or that is not on a claim. -/
inductive Call.Seeks (key : ObjectKey) : Call → Prop
  | read : Seeks key (.getClaim key.ns key.name)
  | create {claim : BlockDeviceClaim} : claim.metadata.nameD = key.name → claim.boundDevice? = none →
      Seeks key (.createClaim key.ns claim)
  | other {c : Call} : c.isOnClaim = false → Seeks key c

namespace Memory

variable {faults : Call → Error → Prop} {m m' : Memory} {key : ObjectKey} {t : List Event}

/-! ### Reads that are left -/

/-- The device that is scripted for a claim when it has been read a number of times. -/
def scriptedDevice? (binding : Option Binding) (reads : Nat) : Option String :=
  binding.bind fun b => if b.afterReads ≤ reads then deviceNamed? b.device else none

/-- The device that the claim under a key has after some more reads of it. -/
def deviceAfter (m : Memory) (key : ObjectKey) (n : Nat) : Option String :=
  ((m.claims.get? key).bind (·.boundDevice?)).or
    (scriptedDevice? (m.bindings.get? key.name) (m.readsOf key.name + n))

theorem scriptedDevice?_mono {binding : Option Binding} {reads reads' : Nat} {device : String}
    (h : scriptedDevice? binding reads = some device) (hle : reads ≤ reads') :
    scriptedDevice? binding reads' = some device := by
  cases binding with
  | none => cases h
  | some b =>
    unfold scriptedDevice? at h ⊢
    rw [Option.bind_some] at h ⊢
    split at h
    case isTrue hafter =>
      rw [if_pos (hafter.trans hle)]
      exact h
    case isFalse => cases h

theorem boundDevice?_bound (binding : Option Binding) (reads : Nat) (claim : BlockDeviceClaim) :
    (bound binding reads claim).boundDevice? = claim.boundDevice?.or (scriptedDevice? binding reads) := by
  unfold bound scriptedDevice?
  cases binding with
  | none => simp
  | some b =>
    rw [Option.bind_some]
    dsimp only
    cases hheld : claim.boundDevice? with
    | some device => simp [hheld]
    | none =>
      by_cases hafter : b.afterReads ≤ reads
      · rw [if_pos ⟨hafter, rfl⟩, if_pos hafter, Option.none_or]
        rfl
      · simp [hafter, hheld]

theorem deviceAfter_mono {n n' : Nat} {device : String} (h : m.deviceAfter key n = some device)
    (hle : n ≤ n') : m.deviceAfter key n' = some device := by
  unfold deviceAfter at h ⊢
  rcases Option.or_eq_some_iff.1 h with hheld | ⟨hheld, hscripted⟩
  · rw [hheld]
    rfl
  · rw [hheld, Option.none_or]
    exact scriptedDevice?_mono hscripted (Nat.add_le_add_left hle _)

theorem scriptedDevice?_or (binding : Option Binding) {reads reads' : Nat} (hle : reads ≤ reads') :
    (scriptedDevice? binding reads).or (scriptedDevice? binding reads') = scriptedDevice? binding reads' := by
  cases h : scriptedDevice? binding reads with
  | none => rfl
  | some device => rw [scriptedDevice?_mono h hle, Option.some_or]

theorem deviceAfter_getClaim (m : Memory) (key : ObjectKey) (n : Nat) :
    (m.getClaim key.ns key.name).2.deviceAfter key n = m.deviceAfter key (n + 1) := by
  have hreads := readsOf_getClaim m key.ns key.name
  have hsetup : m.SameSetup (m.getClaim key.ns key.name).2 := sameSetup_answer (.getClaim key.ns key.name) m
  have hle : m.readsOf key.name + 1 ≤ m.readsOf key.name + (n + 1) := by omega
  unfold deviceAfter
  rw [hreads, hsetup.bindings, Nat.add_assoc, Nat.add_comm 1 n]
  rw [get?_claims_getClaim]
  cases m.claims.get? key with
  | none => rfl
  | some claim =>
    rw [Option.map_some, Option.bind_some, Option.bind_some, boundDevice?_bound, Option.or_assoc,
      scriptedDevice?_or _ hle]

/-- A read gives a claim as it is bound by then, and leaves one read less. -/
theorem Answers.device_of_getClaim (key : ObjectKey) {claim : BlockDeviceClaim}
    (h : m.Answers faults (.getClaim key.ns key.name) (.ok claim) m') :
    claim.boundDevice? = m.deviceAfter key 1 ∧ ∀ n, m'.deviceAfter key n = m.deviceAfter key (n + 1) := by
  obtain ⟨old, hold, -, -⟩ := h.claims_of_getClaim
  generalize hr : (Except.ok claim : Reply (.getClaim key.ns key.name)) = r at h
  cases h with
  | failed _ => cases hr
  | given =>
    refine ⟨?_, deviceAfter_getClaim m key⟩
    have hreply : (m.getClaim key.ns key.name).1 =
        .ok (bound (m.bindings.get? key.name) (m.readsOf key.name + 1) old) := by
      unfold getClaim
      simp [hold]
    obtain rfl := Except.ok.inj (hr.trans hreply)
    rw [boundDevice?_bound]
    unfold deviceAfter
    rw [hold, Option.bind_some]

theorem one_le_of_deviceAfter {n : Nat} {device : String} (hnone : m.deviceAfter key 1 = none)
    (hdevice : m.deviceAfter key (n + 1) = some device) : 1 ≤ n := by
  rcases Nat.eq_zero_or_pos n with rfl | hpos
  · rw [hnone] at hdevice
    cases hdevice
  · exact hpos

theorem Answers.contains_of_getClaim {claim : BlockDeviceClaim}
    (h : m.Answers faults (.getClaim key.ns key.name) (.ok claim) m') : m'.claims.contains key = true := by
  obtain ⟨-, -, -, hclaim⟩ := h.claims_of_getClaim
  exact Option.isSome_iff_exists.2 ⟨claim, hclaim⟩

theorem deviceAfter_createClaim (m : Memory) {claim : BlockDeviceClaim}
    (hname : claim.metadata.nameD = key.name) (hdevice : claim.boundDevice? = none) (n : Nat) :
    (m.createClaim key.ns claim).2.deviceAfter key n = m.deviceAfter key n := by
  unfold createClaim
  dsimp only
  rw [hname]
  split
  case isTrue => rfl
  case isFalse habsent =>
    have hnone : m.claims.get? key = none := by simpa [KeyMap.contains] using habsent
    have hblank : ({ claim with metadata := { claim.metadata with ns := some key.ns } } :
        BlockDeviceClaim).boundDevice? = none :=
      (BlockDeviceClaim.boundDevice?_of_spec rfl).trans hdevice
    unfold deviceAfter
    dsimp only
    rw [hnone, KeyMap.get?_insert_self, Option.bind_some, Option.bind_none, hblank]
    rfl

theorem contains_createClaim (m : Memory) {claim : BlockDeviceClaim} (hname : claim.metadata.nameD = key.name) :
    (m.createClaim key.ns claim).2.claims.contains key = true := by
  unfold createClaim
  dsimp only
  rw [hname]
  split
  case isTrue hpresent => exact hpresent
  case isFalse =>
    unfold KeyMap.contains
    rw [KeyMap.get?_insert_self]
    rfl

theorem isExists_of_createClaim {m : Memory} {ns : String} {claim : BlockDeviceClaim} {e : Error}
    (h : (m.createClaim ns claim).1 = .error e) : e.isExists = true := by
  unfold createClaim at h
  dsimp only at h
  split at h
  · cases h
    rfl
  · cases h

theorem isNotFound_of_getClaim {m : Memory} {ns name : String} {e : Error}
    (h : (m.getClaim ns name).1 = .error e) : e.isNotFound = true := by
  unfold getClaim at h
  dsimp only at h
  split at h
  · cases h
    rfl
  · cases h

theorem sparesClaim_of_seeks {c : Call} (hc : c.Seeks key) (r : Reply c) :
    SparesClaim key (.called c r) := by
  intro hcall
  obtain rfl : c = .deleteClaim key.ns key.name := Option.some.inj hcall
  cases hc with
  | other hother => cases hother

/-- Calls may fail, but not in a way that says that an object is missing or exists. -/
def Uninformative (faults : Call → Error → Prop) : Prop :=
  ∀ c e, faults c e → e.isNotFound = false ∧ e.isExists = false

theorem uninformative_noFaults : Uninformative NoFaults := fun _ _ h => h.elim

/-- What says something about an object has been answered by the cluster. -/
theorem Answers.eq_answer_of_uninformative {c : Call} {r : Reply c} (h : m.Answers faults c r m')
    (hfaults : Uninformative faults) (hr : ∀ e, r = .error e → e.isNotFound = true ∨ e.isExists = true) :
    m' = (m.answer c).2 := by
  cases h with
  | given => rfl
  | failed he =>
    obtain ⟨hnotFound, hexists⟩ := hfaults c _ he
    rcases hr _ rfl with hinformative | hinformative
    · rw [hnotFound] at hinformative
      cases hinformative
    · rw [hexists] at hinformative
      cases hinformative

/-- No wait among the events has been cut short. -/
def Uncut (t : List Event) : Prop := ∀ ms, .slept ms true ∉ t

theorem uncut_of_obeys (h : Obeys none t) : Uncut t := by
  intro ms hcut
  induction t with
  | nil => cases hcut
  | cons e t ih =>
    cases e with
    | called c r => exact ih h (List.mem_of_ne_of_mem (by simp) hcut)
    | told n => exact ih h (List.mem_of_ne_of_mem (by simp) hcut)
    | polled b => exact ih h.2 (List.mem_of_ne_of_mem (by simp) hcut)
    | slept ms' cut =>
      obtain ⟨rfl, hrest⟩ := h
      exact ih hrest (List.mem_of_ne_of_mem (by simp) hcut)

end Memory
end Cluster

namespace Device

open Cluster (Call Event Memory)
open Cluster.Memory (NoFaults Plays Uncut Uninformative)
open Program.Event (calls)
open Attempt (Path)

variable {faults : Call → Error → Prop} {m m' : Memory} {settings : Settings} {t : List Event}

/-! ### Awaiting a device -/

section
variable {claim volume device : String} {left : Nat} {r : Except Error String}

/-- One look at a claim in a cluster: it fails, finds the device, is cancelled in the wait after it, or leads to
further looks, for which one read less is needed. -/
inductive Look (faults : Call → Error → Prop) (settings : Settings) (claim volume : String) (left : Nat)
    (m m' : Memory) : List Event → Except Error String → Prop
  | failed {e e' : Error} {m₁ : Memory} : m.Answers faults (.getClaim settings.ns claim) (.error e) m₁ →
      Look faults settings claim volume left m m' [.called (.getClaim settings.ns claim) (.error e)]
        (.error e')
  | found {current : BlockDeviceClaim} {device : String} :
      m.deviceAfter ⟨settings.ns, claim⟩ 1 = some device →
      Look faults settings claim volume left m m' [.called (.getClaim settings.ns claim) (.ok current)]
        (.ok device)
  | cut {current : BlockDeviceClaim} {e : Error} :
      Look faults settings claim volume left m m'
        [.called (.getClaim settings.ns claim) (.ok current), .slept settings.claimPollMs true] (.error e)
  | later {current : BlockDeviceClaim} {t : List Event} {r : Except Error String} {m₁ : Memory} :
      m.deviceAfter ⟨settings.ns, claim⟩ 1 = none → m₁.claims.contains ⟨settings.ns, claim⟩ = true →
      (∀ n, m₁.deviceAfter ⟨settings.ns, claim⟩ n = m.deviceAfter ⟨settings.ns, claim⟩ (n + 1)) →
      Path (awaitDevice settings claim volume left) t r → Plays faults m₁ t m' →
      Look faults settings claim volume left m m'
        (.called (.getClaim settings.ns claim) (.ok current) :: .slept settings.claimPollMs false :: t) r

theorem look_of_awaitDevice (h : Path (awaitDevice settings claim volume (left + 1)) t r)
    (hplay : Plays faults m t m') : Look faults settings claim volume left m m' t r := by
  rcases path_awaitDevice_succ h with ⟨e, e', rfl, rfl⟩ | ⟨current, u, rfl, hlook⟩
  · cases hplay with
    | next hevent _ => exact .failed hevent.answers
  cases hplay with
  | next hevent hrest =>
    obtain ⟨hfound, hafter⟩ := Memory.Answers.device_of_getClaim ⟨settings.ns, claim⟩ hevent.answers
    rcases hlook with ⟨device, hdevice, rfl, rfl⟩ | ⟨hnone, ⟨e, rfl, rfl⟩ | ⟨v, rfl, hlater⟩⟩
    · exact .found (hfound.symm.trans hdevice)
    · exact .cut
    · cases hrest with
      | next hslept hrest =>
        obtain rfl := hslept.eq_of_silent rfl
        exact .later (hfound.symm.trans hnone) hevent.answers.contains_of_getClaim hafter hlater hrest

theorem awaitDevice_eq (h : Path (awaitDevice settings claim volume left) t r)
    (hplay : Plays NoFaults m t m') (huncut : Uncut t)
    (hpresent : m.claims.contains ⟨settings.ns, claim⟩ = true)
    (hdevice : m.deviceAfter ⟨settings.ns, claim⟩ left = some device) (hleft : 1 ≤ left) :
    r = .ok device := by
  induction left generalizing t m with
  | zero => cases hleft
  | succ left ih =>
    cases look_of_awaitDevice h hplay with
    | failed hanswer =>
      have habsent := (hanswer.claims_of_getClaim_error id).1
      unfold KeyMap.contains at hpresent
      rw [habsent] at hpresent
      cases hpresent
    | found hfound =>
      rw [Memory.deviceAfter_mono hfound (Nat.le_add_left 1 left)] at hdevice
      cases hdevice
      rfl
    | cut => exact absurd (by simp) (huncut settings.claimPollMs)
    | @later _ v _ _ hnone hthere hafter hlater hrest =>
      have hmore : 1 ≤ left := Memory.one_le_of_deviceAfter hnone hdevice
      rw [← hafter left] at hdevice
      have hrestUncut : Uncut v := fun ms hcut =>
        huncut ms (List.mem_cons_of_mem _ (List.mem_cons_of_mem _ hcut))
      exact ih hlater hrest hrestUncut hthere hdevice hmore

end

/-! ### Making sure of a claim -/

section
variable {request : DeviceRequest}

theorem boundDevice?_toClaim (request : DeviceRequest) (ns : String) :
    (request.toClaim ns).boundDevice? = none := rfl

theorem seeks_toClaim (request : DeviceRequest) (ns : String) :
    (Call.createClaim ns (request.toClaim ns)).Seeks ⟨ns, claimName request.volume⟩ :=
  .create rfl (boundDevice?_toClaim request ns)

theorem seeks_ensure : (ensure settings request).Always
    fun t => ∀ c ∈ calls t, c.Seeks ⟨settings.ns, claimName request.volume⟩ :=
  always_ensure (Attempt.composable_calls (Call.Seeks ⟨settings.ns, claimName request.volume⟩))
    (Program.Event.forall_mem_calls_singleton (Call.Seeks _) .read)
    (Program.Event.forall_mem_calls_singleton (Call.Seeks _) (seeks_toClaim request settings.ns))

theorem deviceAfter_of_ensure {name : String} (hfaults : Uninformative faults)
    (h : Path (ensure settings request) t (.ok name)) (hplay : Plays faults m t m') :
    request.check = .ok () ∧ m'.claims.contains ⟨settings.ns, claimName request.volume⟩ = true ∧
      ∀ n, m'.deviceAfter ⟨settings.ns, claimName request.volume⟩ n =
        m.deviceAfter ⟨settings.ns, claimName request.volume⟩ (n + 1) := by
  rw [ensure_eq] at h
  rcases Attempt.path_check_bind_iff.1 h with ⟨e, -, -, he⟩ | ⟨_, hcheck, h₁⟩
  · cases he
  refine ⟨hcheck, ?_⟩
  obtain ⟨found, u, rfl, h₂⟩ := Attempt.path_reply_bind_iff.1 h₁
  cases hplay with
  | next hread hrest =>
    split at h₂
    case h_1 current =>
      obtain ⟨rfl, -⟩ := Attempt.path_pure_iff.1 h₂
      cases hrest with
      | done =>
        exact ⟨Memory.Answers.contains_of_getClaim hread.answers,
          (Memory.Answers.device_of_getClaim _ hread.answers).2⟩
    case h_2 e =>
      split at h₂
      case isFalse => cases (Attempt.path_throw_iff.1 h₂).2
      case isTrue hmissing =>
        obtain ⟨-, made, rfl, hmade⟩ := make_eq_ok h₂
        obtain rfl := hread.answers.eq_answer_of_uninformative hfaults
          fun e he => .inl (by cases he; exact hmissing)
        obtain rfl := hrest.answers.eq_answer_of_uninformative hfaults fun e he => .inr (hmade e he)
        have hblank := boundDevice?_toClaim request settings.ns
        refine ⟨Memory.contains_createClaim _ rfl, fun n => ?_⟩
        rw [← Memory.deviceAfter_getClaim m]
        exact Memory.deviceAfter_createClaim _ rfl hblank n

theorem path_ensure_of_answered {r : Except Error String} (h : Path (ensure settings request) t r)
    (hanswered : ∀ c r, .called c r ∈ t → ∃ n : Memory, r = (n.answer c).1)
    (hcheck : request.check = .ok ()) :
    r = .ok (claimName request.volume) ∧
      ((∃ current, t = [.called (.getClaim settings.ns (claimName request.volume)) (.ok current)]) ∨
        ∃ e made, t = [.called (.getClaim settings.ns (claimName request.volume)) (.error e),
          .called (.createClaim settings.ns (request.toClaim settings.ns)) made]) := by
  rw [ensure_eq] at h
  rcases Attempt.path_check_bind_iff.1 h with ⟨e, he, -, -⟩ | ⟨_, -, h₁⟩
  · rw [hcheck] at he
    cases he
  obtain ⟨found, u, rfl, h₂⟩ := Attempt.path_reply_bind_iff.1 h₁
  split at h₂
  case h_1 current =>
    obtain ⟨rfl, rfl⟩ := Attempt.path_pure_iff.1 h₂
    exact ⟨rfl, .inl ⟨current, rfl⟩⟩
  case h_2 e =>
    obtain ⟨n, hread⟩ := hanswered _ _ (List.mem_cons_self ..)
    rw [if_pos (Memory.isNotFound_of_getClaim hread.symm)] at h₂
    unfold make at h₂
    obtain ⟨made, v, rfl, h₃⟩ := Attempt.path_reply_bind_iff.1 h₂
    obtain ⟨n', hcreate⟩ := hanswered _ _ (List.mem_cons_of_mem _ (List.mem_cons_self ..))
    split at h₃
    case h_1 stored =>
      obtain ⟨rfl, rfl⟩ := Attempt.path_pure_iff.1 h₃
      exact ⟨rfl, .inr ⟨e, _, rfl⟩⟩
    case h_2 =>
      obtain ⟨rfl, rfl⟩ := Attempt.path_pure_iff.1 h₃
      exact ⟨rfl, .inr ⟨e, _, rfl⟩⟩
    case h_3 e' hother =>
      have hexists : e'.isExists = true := Memory.isExists_of_createClaim hcreate.symm
      cases e' with
      | resourceExists kind object => exact absurd rfl (hother kind object)
      | _ => cases hexists

theorem ensure_eq_of_plays {r : Except Error String} (h : Path (ensure settings request) t r)
    (hplay : Plays NoFaults m t m') (hcheck : request.check = .ok ()) :
    r = .ok (claimName request.volume) :=
  (path_ensure_of_answered h (fun _ _ => hplay.exists_answer) hcheck).1

end

/-! ### Binding -/

/-- A call that binds a device for a request finds a device in a cluster. -/
structure Finds (settings : Settings) (request : DeviceRequest) (m : Memory) (name : String)
    (device : BlockDevice) : Prop where
  check : request.check = .ok ()
  looks : 1 ≤ settings.claimRetryCount
  found : m.deviceAfter ⟨settings.ns, claimName request.volume⟩ (settings.claimRetryCount + 1) = some name
  kept : m.devices.get? ⟨settings.ns, name⟩ = some device

variable {request : DeviceRequest} {name : String} {device : BlockDevice}

/-- Without failures and cancellation, the device that is found is bound. -/
theorem Finds.bind_eq {r : Except Error (String × BlockDevice)} (hfinds : Finds settings request m name device)
    (h : Path (bind settings request) t r) (hplay : Plays NoFaults m t m') (huncut : Uncut t) :
    r = .ok (claimName request.volume, device) := by
  rcases path_bind h with ⟨e, hensure, -⟩ | ⟨u, v, rfl, hensure, hrest⟩
  · cases ensure_eq_of_plays hensure hplay hfinds.check
  obtain ⟨m₁, hfirst, hsecond⟩ := hplay.of_append
  obtain ⟨-, hpresent, hafter⟩ := deviceAfter_of_ensure Memory.uninformative_noFaults hensure hfirst
  have hfound : m₁.deviceAfter ⟨settings.ns, claimName request.volume⟩ settings.claimRetryCount =
      some name := (hafter _).trans hfinds.found
  have huncut : Uncut v := fun ms hcut => huncut ms (List.mem_append_right _ hcut)
  rcases hrest with ⟨e, hawait, -⟩ | ⟨w, name', reply, rfl, hawait, hread⟩
  · cases awaitDevice_eq hawait hsecond huncut hpresent hfound hfinds.looks
  obtain ⟨m₂, hlooks, hlast⟩ := hsecond.of_append
  have huncut : Uncut w := fun ms hcut => huncut ms (List.mem_append_left _ hcut)
  cases awaitDevice_eq hawait hlooks huncut hpresent hfound hfinds.looks
  have hkept : m₂.devices.get? ⟨settings.ns, name⟩ = some device := by
    rw [(hfirst.sameSetup.trans hlooks.sameSetup).devices]
    exact hfinds.kept
  have hreply : reply = .ok device :=
    hlast.answers.eq_answer.1.trans (Memory.found_eq_ok_iff.2 hkept)
  rcases hread with ⟨found, hfound, rfl⟩ | ⟨e, e', he, -⟩
  · rw [hreply] at hfound
    cases hfound
    rfl
  · rw [hreply] at he
    cases he

/-! ### Making a volume -/

variable {request : ProvisionRequest} {plan : Plan} {affinity : TextMap} {name : String}
  {device : BlockDevice}

end Device
end NodeVolumes
