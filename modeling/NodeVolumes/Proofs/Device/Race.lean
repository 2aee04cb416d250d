import NodeVolumes.Proofs.Cluster.Schedule
import NodeVolumes.Proofs.Device.Binding

/-! # Calls that make sure of one claim at once

Between the read of a missing claim and its creation, any other call may create it. As long as nobody deletes the
claim, one of the creations comes first, and all others find the claim there.

* `AskFor`: requests for one volume that a claim can be made of.
* `path_of_follows`, `spares_of_follows`: what each of the calls does, and what nobody does.
* `ensure_race`: any number of calls for one volume, however their steps fall. -/

namespace NodeVolumes.Device

open Cluster (Call Event History Memory)
open Cluster.Memory (NoFaults Plays Happens Follows weave createsClaim RewritesClaim SparesClaim AsksForClaim)

variable {n : Nat} {settings : Settings} {volume : String} {requests : Fin n → DeviceRequest}
  {schedule : List (Fin n ⊕ Call)} {m : Memory} {woven : Memory.Woven n (Except Error String)}

/-! ### Calls for one volume -/

/-- A number of requests for one volume. -/
structure AskFor (volume : String) (requests : Fin n → DeviceRequest) : Prop where
  volume_ne : volume ≠ ""
  same : ∀ i, (requests i).volume = volume
  hostname_ne : ∀ i, (requests i).hostname ≠ ""

theorem AskFor.check (h : AskFor volume requests) (i : Fin n) : (requests i).check = .ok () := by
  unfold DeviceRequest.check
  rw [h.same i, if_neg]
  rintro (hvolume | hhostname)
  · exact h.volume_ne hvolume
  · exact h.hostname_ne i hhostname

/-- What one of several calls makes of its claim: it reads it and finds it, or reads it and creates it. -/
theorem path_of_follows (hask : AskFor volume requests)
    (h : Follows schedule (fun i => (ensure settings (requests i)).run) m woven) (i : Fin n) :
    woven.results i = .ok (claimName volume) ∧
      ((∃ current, woven.history.eventsOf (some i) =
          [.called (.getClaim settings.ns (claimName volume)) (.ok current)]) ∨
        ∃ e made, woven.history.eventsOf (some i) =
          [.called (.getClaim settings.ns (claimName volume)) (.error e),
            .called (.createClaim settings.ns ((requests i).toClaim settings.ns)) made]) := by
  have hpath := path_ensure_of_answered (h.paths i) (fun c r hmem => ?_) (hask.check i)
  · rw [hask.same i] at hpath
    exact hpath
  · exact h.plays.exists_answer (History.mem_events.2 ⟨_, History.mem_eventsOf.1 hmem⟩)

theorem call?_of_follows (hask : AskFor volume requests)
    (h : Follows schedule (fun i => (ensure settings (requests i)).run) m woven) {i : Fin n} {e : Event}
    (he : (some i, e) ∈ woven.history) :
    e.call? = some (.getClaim settings.ns (claimName volume)) ∨
      e.call? = some (.createClaim settings.ns ((requests i).toClaim settings.ns)) := by
  have hmem := History.mem_eventsOf.2 he
  obtain ⟨-, ⟨current, hevents⟩ | ⟨e', made, hevents⟩⟩ := path_of_follows hask h i
  · rw [hevents, List.mem_singleton] at hmem
    rw [hmem]
    exact .inl rfl
  · rw [hevents, List.mem_cons, List.mem_singleton] at hmem
    rcases hmem with rfl | rfl
    · exact .inl rfl
    · exact .inr rfl

theorem spares_of_call? {e : Event} {request : DeviceRequest}
    (h : e.call? = some (.getClaim settings.ns (claimName volume)) ∨
      e.call? = some (.createClaim settings.ns (request.toClaim settings.ns))) :
    SparesClaim ⟨settings.ns, claimName volume⟩ e ∧ ¬RewritesClaim ⟨settings.ns, claimName volume⟩ e := by
  cases e with
  | called c r =>
    rcases h with h | h
    · cases h
      exact ⟨nofun, Memory.not_succeeds_of_kind rfl⟩
    · cases h
      exact ⟨nofun, Memory.not_succeeds_of_kind rfl⟩
  | _ => rcases h with h | h <;> cases h

/-- If the schedule has no deletion of the claim, nothing that happens is one. -/
theorem spares_of_follows (hask : AskFor volume requests)
    (h : Follows schedule (fun i => (ensure settings (requests i)).run) m woven)
    (hdelete : .inr (.deleteClaim settings.ns (claimName volume)) ∉ schedule) :
    ∀ e ∈ woven.history.events, SparesClaim ⟨settings.ns, claimName volume⟩ e := by
  intro e he
  obtain ⟨party, hparty⟩ := History.mem_events.1 he
  cases party with
  | some i => exact (spares_of_call? (call?_of_follows hask h hparty)).1
  | none => exact fun hcall => hdelete (h.mem_schedule hparty hcall)

theorem contains_of_follows (hask : AskFor volume requests)
    (h : Follows schedule (fun i => (ensure settings (requests i)).run) m woven)
    (hdelete : .inr (.deleteClaim settings.ns (claimName volume)) ∉ schedule) (i : Fin n) :
    woven.after.claims.contains ⟨settings.ns, claimName volume⟩ = true := by
  have hspares := spares_of_follows hask h hdelete
  have hmem {e : Event} (he : e ∈ woven.history.eventsOf (some i)) : e ∈ woven.history.events :=
    History.mem_events.2 ⟨_, History.mem_eventsOf.1 he⟩
  obtain ⟨-, ⟨current, hevents⟩ | ⟨e, made, hevents⟩⟩ := path_of_follows hask h i
  · have hread : .called (.getClaim settings.ns (claimName volume)) (.ok current) ∈
        woven.history.eventsOf (some i) := by simp [hevents]
    refine h.plays.contains_of_mem hspares (hmem hread) fun hhappens => ?_
    exact Memory.Answers.contains_of_getClaim hhappens.answers
  · have hcreate : .called (.createClaim settings.ns ((requests i).toClaim settings.ns)) made ∈
        woven.history.eventsOf (some i) := by simp [hevents]
    refine h.plays.contains_of_mem hspares (hmem hcreate) fun hhappens => ?_
    rw [hhappens.answers.eq_answer.2]
    exact Memory.contains_createClaim _ (congrArg claimName (hask.same i))

theorem not_rewritesClaim_of_follows (hask : AskFor volume requests)
    (h : Follows schedule (fun i => (ensure settings (requests i)).run) m woven)
    (hread : ∀ c, .inr c ∈ schedule → c.claimKey? = some ⟨settings.ns, claimName volume⟩ →
      c = .getClaim settings.ns (claimName volume)) :
    ∀ e ∈ woven.history.events, ¬RewritesClaim ⟨settings.ns, claimName volume⟩ e := by
  intro e he hrewrites
  obtain ⟨party, hparty⟩ := History.mem_events.1 he
  cases party with
  | some i => exact (spares_of_call? (call?_of_follows hask h hparty)).2 hrewrites
  | none =>
    obtain ⟨c, a, rfl, hkind, hkey⟩ := hrewrites.exists_eq
    cases hread c (h.mem_schedule hparty rfl) hkey
    cases hkind

/-- If the other parties only read the claim and it is missing, the call that asks first for its creation
makes it as it has been asked to. -/
theorem exists_first_of_follows (hn : 0 < n) (hask : AskFor volume requests)
    (h : Follows schedule (fun i => (ensure settings (requests i)).run) m woven)
    (hread : ∀ c, .inr c ∈ schedule → c.claimKey? = some ⟨settings.ns, claimName volume⟩ →
      c = .getClaim settings.ns (claimName volume))
    (habsent : m.claims.get? ⟨settings.ns, claimName volume⟩ = none) :
    ∃ i before after, woven.history = before ++ (some i, .called
        (.createClaim settings.ns ((requests i).toClaim settings.ns))
        (.ok ((requests i).toClaim settings.ns))) :: after ∧
      (∀ e ∈ History.events before, ¬AsksForClaim ⟨settings.ns, claimName volume⟩ e) ∧
      ∃ kept, woven.after.claims.get? ⟨settings.ns, claimName volume⟩ = some kept ∧
        m.KeepsClaim ⟨settings.ns, claimName volume⟩ ((requests i).toClaim settings.ns) kept := by
  have hdelete : .inr (.deleteClaim settings.ns (claimName volume)) ∉ schedule := by
    intro hmem
    cases hread _ hmem rfl
  have hspares := spares_of_follows hask h hdelete
  have hrewrites := not_rewritesClaim_of_follows hask h hread
  obtain ⟨before, made, after, m₁, hevents, hfirst, hname, hsetup, hmade, hrest⟩ :=
    h.plays.exists_creation habsent (contains_of_follows hask h hdelete ⟨0, hn⟩)
  obtain ⟨before', rest, hhistory, rfl, hlater⟩ := List.map_eq_append_iff.1 hevents
  obtain ⟨⟨party, e⟩, after', rfl, he, rfl⟩ := List.map_eq_cons_iff.1 hlater
  have hmem : (party, e) ∈ woven.history := by
    rw [hhistory]
    exact List.mem_append_right _ (List.mem_cons_self ..)
  have hcall : e.call? = some (.createClaim settings.ns made) := congrArg Program.Event.call? he
  cases party with
  | none =>
    have hkey : (Call.createClaim settings.ns made).claimKey? = some ⟨settings.ns, claimName volume⟩ :=
      congrArg (fun name => some (ObjectKey.mk settings.ns name)) hname
    cases hread _ (h.mem_schedule hmem hcall) hkey
  | some i =>
    obtain rfl : made = (requests i).toClaim settings.ns := by
      rcases call?_of_follows hask h hmem with hcall' | hcall'
      · cases hcall.symm.trans hcall'
      · exact (Call.createClaim.inj (Option.some.inj (hcall.symm.trans hcall'))).2
    have hin {d : Event} (hd : d ∈ History.events after') : d ∈ woven.history.events := by
      rw [hhistory, History.events, List.map_append]
      exact List.mem_append_right _ (List.mem_cons_of_mem _ hd)
    obtain ⟨kept, hkept, hkeeps⟩ := hrest.keepsClaim (fun d hd => hspares d (hin hd))
      (fun d hd => hrewrites d (hin hd)) hmade
    refine ⟨i, before', after', ?_, hfirst, kept, hkept, hkeeps.of_sameSetup hsetup⟩
    rw [hhistory]
    exact congrArg (fun d => before' ++ (some i, d) :: after') he

/-- What comes of calls that make sure of the claim for one volume at once, however their steps fall and
whatever else is asked of the cluster meanwhile, as long as nobody else deletes the claim.

All calls give the name of the claim. It is created once if it is missing, and never if it is there. No call changes
a claim that is there, but a read may bind it to the device that is scripted for it. And if the other parties
only read the claim, the one in the end is the one from the start or, if there was none, the one of the
request whose creation came first. -/
theorem ensure_race (hn : 0 < n) (settings : Settings) (hask : AskFor volume requests)
    (schedule : List (Fin n ⊕ Call))
    (hdelete : .inr (.deleteClaim settings.ns (claimName volume)) ∉ schedule) (m : Memory) :
    let key : ObjectKey := ⟨settings.ns, claimName volume⟩
    let woven := weave schedule (fun i => (ensure settings (requests i)).run) m
    (∀ i, woven.results i = .ok (claimName volume)) ∧
    woven.history.events.countP (createsClaim key) = (if m.claims.contains key then 0 else 1) ∧
    (∀ before i e after m₁ m₂ claim, woven.history = before ++ (some i, e) :: after →
      Plays NoFaults m (History.events before) m₁ → Happens NoFaults m₁ e m₂ →
      m₁.claims.get? key = some claim →
      ∃ kept, m₂.claims.get? key = some kept ∧ m.KeepsClaim key claim kept) ∧
    ((∀ c, .inr c ∈ schedule → c.claimKey? = some key → c = .getClaim key.ns key.name) →
      (∀ claim, m.claims.get? key = some claim →
        ∃ kept, woven.after.claims.get? key = some kept ∧ m.KeepsClaim key claim kept) ∧
      (m.claims.get? key = none → ∃ i before after,
        woven.history = before ++ (some i, .called
          (.createClaim settings.ns ((requests i).toClaim settings.ns))
          (.ok ((requests i).toClaim settings.ns))) :: after ∧
        (∀ e ∈ History.events before, ¬AsksForClaim key e) ∧
        ∃ kept, woven.after.claims.get? key = some kept ∧
          m.KeepsClaim key ((requests i).toClaim settings.ns) kept)) := by
  intro key woven
  have hfollows : Follows schedule _ m woven := Memory.follows_weave schedule _ m
  have hspares := spares_of_follows hask hfollows hdelete
  refine ⟨fun i => (path_of_follows hask hfollows i).1, ?_, ?_, fun hread => ⟨?_, ?_⟩⟩
  · have hcount := hfollows.plays.creations_add hspares
    have hthere := contains_of_follows hask hfollows hdelete ⟨0, hn⟩
    unfold Memory.claimsAt at hcount
    rw [hthere] at hcount
    cases hpresent : m.claims.contains key with
    | true =>
      rw [hpresent] at hcount
      exact Nat.succ.inj hcount
    | false =>
      rw [hpresent] at hcount
      exact hcount
  · intro before i e after m₁ m₂ claim hhistory hplays hhappens hclaim
    have hmem : (some i, e) ∈ woven.history := by
      rw [hhistory]
      exact List.mem_append_right _ (List.mem_cons_self ..)
    obtain ⟨hspares, hrewrites⟩ := spares_of_call? (call?_of_follows hask hfollows hmem)
    obtain ⟨kept, hkept, hkeeps⟩ := hhappens.keepsClaim hspares hrewrites hclaim
    exact ⟨kept, hkept, hkeeps.of_sameSetup hplays.sameSetup⟩
  · intro claim hclaim
    exact hfollows.plays.keepsClaim hspares (not_rewritesClaim_of_follows hask hfollows hread) hclaim
  · exact exists_first_of_follows hn hask hfollows hread

/-- Requests for devices of different sizes. -/
def sizedRequests : Fin 2 → DeviceRequest := fun i =>
  { volume := "pvc-1"
    hostname := "node-1"
    nodeAffinity := .empty
    selectors := none
    capacity := some (if i = 0 then "1Gi" else "2Gi")
    raw := false }

theorem askFor_sizedRequests : AskFor "pvc-1" sizedRequests where
  volume_ne := by decide
  same _ := rfl
  hostname_ne := by decide

/-- Both calls find no claim, then the second one creates it, another party looks at it, and the first one comes
to create it. A claim that has been read three times is bound. -/
theorem ensure_race_sized :
    let schedule : List (Fin 2 ⊕ Call) :=
      [.inl 0, .inl 1, .inl 1, .inr (.getClaim "openebs" "bdc-pvc-1"), .inl 0]
    let m : Memory := Memory.bindAfter {} "bdc-pvc-1" ⟨"sda", 3⟩
    let woven := weave schedule (fun i => (ensure {} (sizedRequests i)).run) m
    .inr (.deleteClaim "openebs" "bdc-pvc-1") ∉ schedule ∧
      (∀ i, woven.results i = .ok "bdc-pvc-1") ∧
      woven.history.events.countP (createsClaim ⟨"openebs", "bdc-pvc-1"⟩) = 1 ∧
      woven.after.claims.get? ⟨"openebs", "bdc-pvc-1"⟩ =
        some (((sizedRequests 1).toClaim "openebs").bindTo "sda") := by
  intro schedule m woven
  have hdelete : .inr (.deleteClaim "openebs" "bdc-pvc-1") ∉ schedule := by simp [schedule]
  obtain ⟨hresults, hcount, -⟩ := ensure_race (by decide) {} askFor_sizedRequests schedule hdelete m
  refine ⟨hdelete, hresults, hcount.trans ?_, ?_⟩
  · decide +kernel
  · decide +kernel

end NodeVolumes.Device
