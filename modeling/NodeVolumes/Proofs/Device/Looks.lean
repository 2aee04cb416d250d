import NodeVolumes.Proofs.Device.Outcome

/-! # How often a claim is read

A call that binds a device reads its claim when it makes sure of it, at every look, and once more when it
gives the claim up; between two looks it waits. In a cluster in memory the claim is bound by the reads of
it, so the reads decide how the call ends.

* `Memory.Plays.readsOf_add`: the count that a cluster keeps is that of the reads among the events.
* `Device.Effort`: how many reads of a claim and how many full waits are among events.
* `effort_of_found` and `effort_of_missing`: what the looks come to when the claim is bound in time, and when
  it is not.
* `bind_of_scripted`: for every script, when the call finds the device, and after how many reads and waits. -/

namespace NodeVolumes

open Cluster (Binding Call Event Memory)
open Cluster.Memory (NoFaults Plays Uncut scriptedDevice? undisturbed)
open Program.Event (calls waits)
open Attempt (Path)

/-! ### Reads of a claim -/

namespace Cluster

/-- Tells the reads of a claim. -/
def Call.readsClaim (name : String) : Call → Bool
  | getClaim _ other => other = name
  | _ => false

@[simp] theorem Call.readsClaim_getClaim (ns name : String) : (getClaim ns name).readsClaim name = true :=
  decide_eq_true rfl

namespace Memory

variable {m m' : Memory} {t : List Event} {name : String}

theorem readsOf_answer (c : Call) (m : Memory) (name : String) :
    (m.answer c).2.readsOf name = m.readsOf name + (c.readsClaim name).toNat := by
  cases c with
  | getClaim ns other =>
    by_cases hname : other = name
    · subst hname
      rw [Call.readsClaim_getClaim]
      exact readsOf_getClaim m ns other
    · have hreads : (Call.getClaim ns other).readsClaim name = false := decide_eq_false hname
      rw [hreads]
      refine readsOf_answer_of_ne (fun key hkey => ?_) m
      cases hkey
      exact hname
  | createClaim ns claim =>
    unfold answer createClaim
    dsimp only
    split <;> rfl
  | replaceClaim ns claim =>
    unfold answer replaceClaim
    dsimp only
    split <;> rfl
  | deleteClaim ns other =>
    unfold answer deleteClaim
    dsimp only
    split <;> rfl
  | _ => exact readsOf_answer_of_isOnClaim rfl m name

/-- Where no call fails, the count of a cluster grows by the reads among the events. -/
theorem Plays.readsOf_add (h : Plays NoFaults m t m') (name : String) :
    m'.readsOf name = m.readsOf name + (calls t).countP (·.readsClaim name) := by
  induction h with
  | done => rfl
  | @next m m₁ m' e t he _ ih =>
    rw [ih]
    cases he with
    | @called c r m₁ hanswer =>
      rw [hanswer.eq_answer.2, readsOf_answer, Program.Event.calls_called_cons, List.countP_cons]
      cases c.readsClaim name <;> simp [Nat.add_assoc, Nat.add_comm 1]
    | silent hsilent => cases e <;> first | rfl | cases hsilent

end Memory
end Cluster

namespace Device

variable {settings : Settings} {request : DeviceRequest} {claim volume device : String} {left : Nat}
  {m m' : Memory} {t u : List Event}

/-! ### Counting reads and waits -/

/-- A claim is read so many times, and there are so many waits for it, all of full length. -/
structure Effort (settings : Settings) (claim : String) (reads pauses : Nat) (t : List Event) : Prop where
  reads : (calls t).countP (·.readsClaim claim) = reads
  waits : waits t = List.replicate pauses (settings.claimPollMs, false)

theorem Effort.append {reads reads' pauses pauses' : Nat} (h : Effort settings claim reads pauses t)
    (h' : Effort settings claim reads' pauses' u) :
    Effort settings claim (reads + reads') (pauses + pauses') (t ++ u) where
  reads := by rw [Program.Event.calls_append, List.countP_append, h.reads, h'.reads]
  waits := by rw [Program.Event.waits_append, h.waits, h'.waits, List.replicate_append_replicate]

theorem effort_read (r : Cluster.Reply (.getClaim settings.ns claim)) :
    Effort settings claim 1 0 [.called (.getClaim settings.ns claim) r] where
  reads := by simp
  waits := rfl

theorem Effort.look {reads pauses : Nat} (h : Effort settings claim reads pauses t)
    (r : Cluster.Reply (.getClaim settings.ns claim)) :
    Effort settings claim (reads + 1) (pauses + 1)
      (.called (.getClaim settings.ns claim) r :: .slept settings.claimPollMs false :: t) where
  reads := by simp [h.reads]
  waits := by rw [Program.Event.waits_called_cons, Program.Event.waits_slept_cons, h.waits, List.replicate_succ]

theorem effort_of_readsClaim {c : Call} (h : c.readsClaim claim = false) (r : Cluster.Reply c) :
    Effort settings claim 0 0 [.called c r] where
  reads := by simp [h]
  waits := rfl

/-! ### The parts of a call -/

theorem effort_of_ensure {r : Except Error String} (h : Path (ensure settings request) t r)
    (hplay : Plays NoFaults m t m') (hcheck : request.check = .ok ()) :
    Effort settings (claimName request.volume) 1 0 t := by
  rcases (path_ensure_of_answered h (fun _ _ => hplay.exists_answer) hcheck).2 with
    ⟨current, rfl⟩ | ⟨e, made, rfl⟩
  · exact effort_read _
  · exact (effort_read (.error e)).append (effort_of_readsClaim rfl made)

theorem effort_of_release {r : Except Error Unit} (h : Path (release settings claim) t r) :
    Effort settings claim 1 0 t := by
  cases releaseShape_of_path h with
  | absent _ => exact effort_read _
  | unread _ => exact effort_read _
  | kept _ => exact (effort_read _).append (effort_of_readsClaim rfl _)
  | dropped _ =>
    exact (effort_read _).append ((effort_of_readsClaim rfl _).append (effort_of_readsClaim rfl _))
  | unmarked _ => exact (effort_read _).append (effort_of_readsClaim rfl _)

theorem effort_of_abandoned {r : Except Error String} (h : Path (awaitDevice settings claim volume 0) t r)
    (hplay : Plays NoFaults m t m') (hnamed : m.NamedAt ⟨settings.ns, claim⟩) :
    r = .error (.noBlockDeviceFound claim volume) ∧ Effort settings claim 1 0 t ∧
      m'.claims.get? ⟨settings.ns, claim⟩ = none := by
  rcases Attempt.path_bind_iff.1 h with ⟨e, habandon, -⟩ | ⟨u, v, _, rfl, habandon, hthrow⟩
  · cases (path_abandon habandon).1
  obtain ⟨-, warning, released, outcome, after, rfl, hrelease, hcalls, hwaits⟩ := path_abandon habandon
  obtain ⟨rfl, rfl⟩ := Attempt.path_throw_iff.1 hthrow
  rw [List.append_nil] at hplay ⊢
  cases hplay with
  | next hwarning hrest =>
    obtain rfl := hwarning.eq_of_silent rfl
    obtain ⟨m₁, hreleased, hafter⟩ := hrest.of_append
    obtain rfl := hafter.eq_of_calls hcalls
    obtain ⟨hreads, hpauses⟩ := effort_of_release hrelease
    refine ⟨rfl, ⟨?_, ?_⟩, (lacksOnly_of_release hrelease hreleased hnamed).absent⟩
    · simp [hreads, hcalls]
    · simp [hpauses, hwaits]

theorem path_awaitDevice_of_uncut {r : Except Error String}
    (h : Path (awaitDevice settings claim volume (left + 1)) t r) (hplay : Plays NoFaults m t m')
    (huncut : Uncut t) (hpresent : m.claims.contains ⟨settings.ns, claim⟩ = true) :
    ∃ current m₁, m.Answers NoFaults (.getClaim settings.ns claim) (.ok current) m₁ ∧
      ((∃ device, current.boundDevice? = some device ∧
          t = [.called (.getClaim settings.ns claim) (.ok current)]) ∨
        current.boundDevice? = none ∧ ∃ v,
          t = .called (.getClaim settings.ns claim) (.ok current) :: .slept settings.claimPollMs false :: v ∧
            Path (awaitDevice settings claim volume left) v r ∧ Plays NoFaults m₁ v m' ∧ Uncut v) := by
  rcases path_awaitDevice_succ h with ⟨e, reason, rfl, -⟩ | ⟨current, u, rfl, hlook⟩
  · have habsent := (hplay.answers.claims_of_getClaim_error id).1
    unfold KeyMap.contains at hpresent
    rw [habsent] at hpresent
    cases hpresent
  cases hplay with
  | @next _ m₁ _ _ _ hread hrest =>
    refine ⟨current, m₁, hread.answers, ?_⟩
    rcases hlook with ⟨device, hdevice, rfl, -⟩ | ⟨hnone, ⟨activity, rfl, -⟩ | ⟨v, rfl, hlater⟩⟩
    · exact .inl ⟨device, hdevice, rfl⟩
    · exact absurd (by simp) (huncut settings.claimPollMs)
    · cases hrest with
      | next hslept hrest =>
        obtain rfl := hslept.eq_of_silent rfl
        have huncut : Uncut v := fun ms hcut =>
          huncut ms (List.mem_cons_of_mem _ (List.mem_cons_of_mem _ hcut))
        exact .inr ⟨hnone, v, rfl, hlater, hrest, huncut⟩

/-- When the claim is bound at one of the looks that are left and not before, each look up to it is a read, and
there is a wait between any two. -/
theorem effort_of_found {looks : Nat} {r : Except Error String}
    (h : Path (awaitDevice settings claim volume left) t r) (hplay : Plays NoFaults m t m') (huncut : Uncut t)
    (hpresent : m.claims.contains ⟨settings.ns, claim⟩ = true) (hlooks : looks < left)
    (hbefore : 1 ≤ looks → m.deviceAfter ⟨settings.ns, claim⟩ looks = none)
    (hfound : m.deviceAfter ⟨settings.ns, claim⟩ (looks + 1) = some device) :
    Effort settings claim (looks + 1) looks t := by
  induction left generalizing t m looks with
  | zero => cases hlooks
  | succ left ih =>
    obtain ⟨current, m₁, hread, hlook⟩ := path_awaitDevice_of_uncut h hplay huncut hpresent
    obtain ⟨hcurrent, hafter⟩ := hread.device_of_getClaim ⟨settings.ns, claim⟩
    rcases hlook with ⟨device', hnow, rfl⟩ | ⟨hnone, v, rfl, hlater, hrest, huncut⟩
    · -- what is there at the first look is not missing at a later one
      obtain rfl : looks = 0 := by
        by_contra hpos
        have hone : 1 ≤ looks := Nat.one_le_iff_ne_zero.2 hpos
        have hthen := Cluster.Memory.deviceAfter_mono (hcurrent.symm.trans hnow) hone
        rw [hbefore hone] at hthen
        cases hthen
      exact effort_read (.ok current)
    · obtain ⟨looks, rfl⟩ := Nat.exists_eq_add_of_le'
        (Cluster.Memory.one_le_of_deviceAfter (hcurrent.symm.trans hnone) hfound)
      have hthere : m₁.claims.contains ⟨settings.ns, claim⟩ = true := hread.contains_of_getClaim
      have hmore := ih hlater hrest huncut hthere (Nat.lt_of_succ_lt_succ hlooks)
        (fun _ => (hafter looks).trans (hbefore (Nat.le_add_left 1 looks))) ((hafter _).trans hfound)
      exact hmore.look (.ok current)

/-- When the claim is bound at none of the looks that are left, each of them is a read and a wait, and the claim
is read once more and is gone. -/
theorem effort_of_missing {r : Except Error String}
    (h : Path (awaitDevice settings claim volume left) t r) (hplay : Plays NoFaults m t m') (huncut : Uncut t)
    (hpresent : m.claims.contains ⟨settings.ns, claim⟩ = true) (hnamed : m.NamedAt ⟨settings.ns, claim⟩)
    (hmissing : 1 ≤ left → m.deviceAfter ⟨settings.ns, claim⟩ left = none) :
    r = .error (.noBlockDeviceFound claim volume) ∧ Effort settings claim (left + 1) left t ∧
      m'.claims.get? ⟨settings.ns, claim⟩ = none := by
  induction left generalizing t m with
  | zero => exact effort_of_abandoned h hplay hnamed
  | succ left ih =>
    have hlast := hmissing (Nat.le_add_left 1 left)
    obtain ⟨current, m₁, hread, hlook⟩ := path_awaitDevice_of_uncut h hplay huncut hpresent
    obtain ⟨hcurrent, hafter⟩ := hread.device_of_getClaim ⟨settings.ns, claim⟩
    rcases hlook with ⟨device', hnow, -⟩ | ⟨-, v, rfl, hlater, hrest, huncut⟩
    · have hthen := Cluster.Memory.deviceAfter_mono (hcurrent.symm.trans hnow) (Nat.le_add_left 1 left)
      rw [hlast] at hthen
      cases hthen
    · have hthere : m₁.claims.contains ⟨settings.ns, claim⟩ = true := hread.contains_of_getClaim
      obtain ⟨hr, hmore, hgone⟩ := ih hlater hrest huncut hthere (hread.namedAt hnamed)
        fun _ => (hafter left).trans hlast
      exact ⟨hr, hmore.look (.ok current), hgone⟩

/-! ### Whole calls -/

/-- Where no call fails, a call that binds a device looks at a claim that is there and has been read once. -/
structure Awaits (settings : Settings) (request : DeviceRequest) (m m' : Memory) (t : List Event)
    (r : Except Error (String × BlockDevice)) (looks : List Event) (found : Except Error String)
    (before after : Memory) : Prop where
  path : Path (awaitDevice settings (claimName request.volume) request.volume settings.claimRetryCount) looks found
  plays : Plays NoFaults before looks after
  present : before.claims.contains ⟨settings.ns, claimName request.volume⟩ = true
  named : m.NamedAt ⟨settings.ns, claimName request.volume⟩ →
    before.NamedAt ⟨settings.ns, claimName request.volume⟩
  device : ∀ n, before.deviceAfter ⟨settings.ns, claimName request.volume⟩ n =
    m.deviceAfter ⟨settings.ns, claimName request.volume⟩ (n + 1)
  uncut : Uncut t → Uncut looks
  /-- Besides the looks, the claim is read once. -/
  effort : ∀ {reads pauses : Nat}, Effort settings (claimName request.volume) reads pauses looks →
    Effort settings (claimName request.volume) (reads + 1) pauses t
  /-- When the looks fail, the call ends with their error. -/
  failed : ∀ e, found = .error e → r = .error e ∧ m' = after

theorem exists_awaits {r : Except Error (String × BlockDevice)} (hcheck : request.check = .ok ())
    (h : Path (bind settings request) t r) (hplay : Plays NoFaults m t m') :
    ∃ looks found before after, Awaits settings request m m' t r looks found before after := by
  rcases path_bind h with ⟨e, hensure, -⟩ | ⟨u, v, rfl, hensure, hrest⟩
  · cases ensure_eq_of_plays hensure hplay hcheck
  obtain ⟨m₁, hfirst, hsecond⟩ := hplay.of_append
  obtain ⟨-, hpresent, hafter⟩ := deviceAfter_of_ensure Cluster.Memory.uninformative_noFaults hensure hfirst
  have hensured := effort_of_ensure hensure hfirst hcheck
  rcases hrest with ⟨e, hawait, rfl⟩ | ⟨w, name, reply, rfl, hawait, -⟩
  · refine ⟨v, .error e, m₁, m', hawait, hsecond, hpresent, hfirst.namedAt, hafter, ?_, ?_, ?_⟩
    · exact fun huncut ms hcut => huncut ms (List.mem_append_right _ hcut)
    · intro reads pauses hlooks
      have hall := hensured.append hlooks
      rwa [Nat.add_comm 1, Nat.zero_add] at hall
    · rintro e' he
      cases he
      exact ⟨rfl, rfl⟩
  · obtain ⟨m₂, hlooks, -⟩ := hsecond.of_append
    refine ⟨w, .ok name, m₁, m₂, hawait, hlooks, hpresent, hfirst.namedAt, hafter, ?_, ?_, nofun⟩
    · exact fun huncut ms hcut => huncut ms (List.mem_append_right _ (List.mem_append_left _ hcut))
    · intro reads pauses hlooks
      have hall := hensured.append (hlooks.append (effort_of_readsClaim rfl reply))
      rwa [Nat.add_zero, Nat.add_comm 1, Nat.add_zero, Nat.zero_add] at hall

/-! ### Scripted claims -/

/-- A cluster that has never read the claim of a request and does not hold it, and in which it gets a device that
is there, at a read of it. -/
structure Scripted (settings : Settings) (request : DeviceRequest) (m : Memory) (script : Binding)
    (disk : BlockDevice) : Prop where
  unread : m.readsOf (claimName request.volume) = 0
  absent : m.claims.get? ⟨settings.ns, claimName request.volume⟩ = none
  binds : m.bindings.get? (claimName request.volume) = some script
  named : script.device ≠ ""
  trimmed : Text.trim script.device = script.device
  disk : m.devices.get? ⟨settings.ns, script.device⟩ = some disk

variable {script : Binding} {disk : BlockDevice}

theorem Scripted.deviceAfter_eq (h : Scripted settings request m script disk) (n : Nat) :
    m.deviceAfter ⟨settings.ns, claimName request.volume⟩ n =
      if script.afterReads ≤ n then some script.device else none := by
  have hnamed : BlockDeviceClaim.deviceNamed? script.device = some script.device := by
    unfold BlockDeviceClaim.deviceNamed?
    rw [h.trimmed, if_neg h.named]
  unfold Cluster.Memory.deviceAfter scriptedDevice?
  rw [h.absent, h.binds, h.unread, Option.bind_none, Option.none_or, Option.bind_some, Nat.zero_add, hnamed]

theorem Scripted.namedAt (h : Scripted settings request m script disk) :
    m.NamedAt ⟨settings.ns, claimName request.volume⟩ := by
  intro current hcurrent
  rw [h.absent] at hcurrent
  cases hcurrent

theorem Scripted.finds (h : Scripted settings request m script disk) (hcheck : request.check = .ok ())
    (hlooks : 1 ≤ settings.claimRetryCount) (hk : script.afterReads ≤ settings.claimRetryCount + 1) :
    Finds settings request m script.device disk where
  check := hcheck
  looks := hlooks
  found := by rw [h.deviceAfter_eq, if_pos hk]
  kept := h.disk

/-- A call that finds the device reads the claim up to the read that binds it, and twice at least. -/
theorem Scripted.effort_of_bind {r : Except Error (String × BlockDevice)}
    (h : Scripted settings request m script disk) (hcheck : request.check = .ok ())
    (hlooks : 1 ≤ settings.claimRetryCount) (hk : script.afterReads ≤ settings.claimRetryCount + 1)
    (hpath : Path (bind settings request) t r) (hplay : Plays NoFaults m t m') (huncut : Uncut t) :
    Effort settings (claimName request.volume) (max 2 script.afterReads) (max 2 script.afterReads - 2) t := by
  obtain ⟨looks, found, before, after, hawaits⟩ := exists_awaits hcheck hpath hplay
  -- the looks that find nothing; the first look is the second read
  obtain ⟨misses, hmisses⟩ : ∃ misses, max 2 script.afterReads = misses + 2 :=
    ⟨max 2 script.afterReads - 2, by omega⟩
  have hbefore : 1 ≤ misses → before.deviceAfter ⟨settings.ns, claimName request.volume⟩ misses = none := by
    intro hone
    rw [hawaits.device, h.deviceAfter_eq, if_neg (by omega)]
  have hfound : before.deviceAfter ⟨settings.ns, claimName request.volume⟩ (misses + 1) =
      some script.device := by
    rw [hawaits.device, h.deviceAfter_eq, if_pos (by omega)]
  rw [hmisses, Nat.add_sub_cancel]
  exact hawaits.effort (effort_of_found hawaits.path hawaits.plays (hawaits.uncut huncut) hawaits.present
    (by omega) hbefore hfound)

/-- A call that finds no device reads the claim at every look and twice besides, and the claim is gone. -/
theorem Scripted.bind_of_missing {r : Except Error (String × BlockDevice)}
    (h : Scripted settings request m script disk) (hcheck : request.check = .ok ())
    (hmissing : ¬(1 ≤ settings.claimRetryCount ∧ script.afterReads ≤ settings.claimRetryCount + 1))
    (hpath : Path (bind settings request) t r) (hplay : Plays NoFaults m t m') (huncut : Uncut t) :
    r = .error (.noBlockDeviceFound (claimName request.volume) request.volume) ∧
      Effort settings (claimName request.volume) (settings.claimRetryCount + 2) settings.claimRetryCount t ∧
      m'.claims.get? ⟨settings.ns, claimName request.volume⟩ = none := by
  obtain ⟨looks, found, before, after, hawaits⟩ := exists_awaits hcheck hpath hplay
  have hnever : 1 ≤ settings.claimRetryCount →
      before.deviceAfter ⟨settings.ns, claimName request.volume⟩ settings.claimRetryCount = none := by
    intro hone
    rw [hawaits.device, h.deviceAfter_eq, if_neg fun hk => hmissing ⟨hone, hk⟩]
  obtain ⟨hfound, heffort, hgone⟩ := effort_of_missing hawaits.path hawaits.plays (hawaits.uncut huncut)
    hawaits.present (hawaits.named h.namedAt) hnever
  obtain ⟨hr, rfl⟩ := hawaits.failed _ hfound
  exact ⟨hr, hawaits.effort heffort, hgone⟩

/-- When a call that binds a device finds it, and what it takes.

The first read of the claim is the one that makes sure of it, so the looks are the reads from the second one on,
and the release of the claim reads it once more. For every number of reads at which the claim is bound and every
number of looks, including none, these reads decide the result. -/
theorem bind_of_scripted (hvolume : request.volume ≠ "") (hhost : request.hostname ≠ "")
    (h : Scripted settings request m script disk) :
    let claim := claimName request.volume
    let events := undisturbed.trace (bind settings request).run (m, none)
    let result := (undisturbed.run (bind settings request).run (m, none)).1
    let after := (undisturbed.run (bind settings request).run (m, none)).2.1
    (1 ≤ settings.claimRetryCount ∧ script.afterReads ≤ settings.claimRetryCount + 1 →
      result = .ok (claim, disk) ∧
        Effort settings claim (max 2 script.afterReads) (max 2 script.afterReads - 2) events ∧
        after.readsOf claim = max 2 script.afterReads ∧ after.claims.contains ⟨settings.ns, claim⟩ = true) ∧
    (¬(1 ≤ settings.claimRetryCount ∧ script.afterReads ≤ settings.claimRetryCount + 1) →
      result = .error (.noBlockDeviceFound claim request.volume) ∧
        Effort settings claim (settings.claimRetryCount + 2) settings.claimRetryCount events ∧
        after.readsOf claim = settings.claimRetryCount + 2 ∧ after.claims.get? ⟨settings.ns, claim⟩ = none) := by
  intro claim events result after
  have hcheck : request.check = .ok () := if_neg (not_or.2 ⟨hvolume, hhost⟩)
  have hpath : Path (bind settings request) events result := World.path_run undisturbed _ (m, none)
  have hplay : Plays NoFaults m events after := Cluster.Memory.plays_undisturbed _ m none
  have huncut : Uncut events := Cluster.Memory.uncut_of_obeys (Cluster.Memory.obeys_undisturbed _ m none)
  have hcount := hplay.readsOf_add claim
  rw [h.unread, Nat.zero_add] at hcount
  constructor
  · rintro ⟨hlooks, hk⟩
    have hresult : result = .ok (claim, disk) := (h.finds hcheck hlooks hk).bind_eq hpath hplay huncut
    have heffort := h.effort_of_bind hcheck hlooks hk hpath hplay huncut
    rw [hresult] at hpath
    obtain ⟨-, current, name, hcurrent, -⟩ := claim_of_bind hpath hplay
    refine ⟨hresult, heffort, hcount.trans heffort.reads, ?_⟩
    exact Option.isSome_iff_exists.2 ⟨current, hcurrent⟩
  · intro hmissing
    obtain ⟨hresult, heffort, hgone⟩ := h.bind_of_missing hcheck hmissing hpath hplay huncut
    exact ⟨hresult, heffort, hcount.trans heffort.reads, hgone⟩

end Device
/-! ### One look -/

namespace Small

/-- A disk. -/
def disk : BlockDevice := { metadata := { name := some "disk" }, spec := { path := "/dev/sdb" } }

/-- A cluster in which the claim of the volume gets the disk at a read of it. -/
def scriptedCluster (reads : Nat) : Memory :=
  (({} : Memory).addDevice "openebs" disk).bindAfter "bdc-pvc-1" ⟨"disk", reads⟩

theorem scripted_scriptedCluster (reads : Nat) :
    Device.Scripted hastySettings diskRequest (scriptedCluster reads) ⟨"disk", reads⟩ disk where
  unread := rfl
  absent := rfl
  binds := rfl
  named := (by decide : "disk" ≠ "")
  trimmed := (by decide +kernel : Text.trim "disk" = "disk")
  disk := KeyMap.get?_insert_self ..

end Small

/-- One look finds a claim that is bound at the second read, and misses one that is bound at the third, which is
the read of the release. -/
theorem bind_of_scripted_once :
    let bind (reads : Nat) := (undisturbed.run Small.bindDisk (Small.scriptedCluster reads, none)).1
    (bind 2 = .ok ("bdc-pvc-1", Small.disk) ∧ bind 3 = .error (.noBlockDeviceFound "bdc-pvc-1" "pvc-1")) ∧
      Device.Effort Small.hastySettings "bdc-pvc-1" 2 0
        (undisturbed.trace Small.bindDisk (Small.scriptedCluster 2, none)) ∧
      Device.Effort Small.hastySettings "bdc-pvc-1" 3 1
        (undisturbed.trace Small.bindDisk (Small.scriptedCluster 3, none)) := by
  intro bind
  obtain ⟨hfound, heffort, -⟩ := (Device.bind_of_scripted (by decide) (by decide)
    (Small.scripted_scriptedCluster 2)).1 (by decide)
  obtain ⟨hmissing, hlonger, -⟩ := (Device.bind_of_scripted (by decide) (by decide)
    (Small.scripted_scriptedCluster 3)).2 (by decide)
  exact ⟨⟨hfound, hmissing⟩, heffort, hlonger⟩

end NodeVolumes
