import NodeVolumes.Proofs.Controller.Visit

/-! # Visits to claims

What the visit to a claim can come to.

* `Served`: the visits to a claim that needs a volume; `served_of_path` says that there are no others.
* `IsDue`: the claims that a volume is to be provisioned for; `provisions_of_visit` says that these are the
  ones.
* `provisioned_of_visit`, `created_of_visit`: what goes before a volume and its persistent volume. -/

namespace NodeVolumes.Controller

open Work (Path)

variable {o : Options} {classes : List String} {claim : PersistentVolumeClaim} {p q : Parked}
  {t : List Event}

/-! ### Looking up objects -/

/-- Tells the replies that say that an object does not exist. -/
def isAbsent {α : Type} : Except ApiError α → Bool
  | .ok _ => false
  | .error e => e.saysNotFound

/-- The look-up of an object that may be missing. -/
def lookup (kind : Kind) (name : String) (reply : Api.Reply (.get kind none name)) : Event :=
  .called (.api (.get kind none name)) reply

theorem path_getOpt {kind : Kind} {name : String} {r : Except ApiError (Option kind.Object)}
    (h : Path (getOpt kind name) p t r q) :
    ∃ reply, t = [lookup kind name reply] ∧ q = p ∧ (r = .ok none ↔ isAbsent reply = true) := by
  unfold getOpt at h
  obtain ⟨reply, u, rfl, h₁⟩ := Work.path_ask_bind_iff.1 h
  refine ⟨reply, ?_⟩
  cases reply with
  | ok object =>
    obtain ⟨rfl, rfl, rfl⟩ := Work.path_pure_iff.1 h₁
    exact ⟨rfl, rfl, by simp [isAbsent]⟩
  | error e =>
    simp only at h₁
    split at h₁
    case isTrue hfound =>
      obtain ⟨rfl, rfl, rfl⟩ := Work.path_pure_iff.1 h₁
      exact ⟨rfl, rfl, by simp [isAbsent, hfound]⟩
    case isFalse hfound =>
      obtain ⟨rfl, rfl, rfl⟩ := Work.path_pure_iff.1 h₁
      exact ⟨rfl, rfl, by simp [isAbsent, hfound]⟩

theorem path_selectedNode {r : Except Error (Option Node)} (h : Path (selectedNode claim) p t r q) :
    (∀ e ∈ t, isAside e = true) ∧ q = p := by
  unfold selectedNode at h
  split at h
  · obtain ⟨rfl, -, rfl⟩ := Work.path_pure_iff.1 h
    simp
  · obtain ⟨u, v, found, p', rfl, hlook, h₁⟩ := Work.path_bind_iff.1 h
    obtain ⟨reply, rfl, rfl, -⟩ := path_getOpt hlook
    cases found with
    | ok node =>
      obtain ⟨rfl, -, rfl⟩ := Work.path_pure_iff.1 h₁
      simp [lookup, isAside, writesVolume]
    | error e =>
      obtain ⟨rfl, -, rfl⟩ := Work.path_pure_iff.1 h₁
      simp [lookup, isAside, writesVolume]

/-! ### Consequences -/

theorem path_onFailure {ns name : String} {e : Error} (h : Path (onFailure claim ns name e) p t () q) :
    (∀ e ∈ t, isAside e = true) ∧ q = p.park claim e := by
  have hmodify {u : List Event} (h : Path (modify fun parked => parked.park claim e) p u () q) :
      u = [] ∧ q = p.park claim e := by
    obtain ⟨hu, hq⟩ := Work.path_modify_iff.1 h
    exact ⟨hu, hq⟩
  unfold onFailure at h
  split at h
  · unfold reschedule at h
    obtain ⟨u, v, _, p', rfl, hpatch, h₁⟩ := Work.path_bind_iff.1 h
    obtain ⟨reply, w, rfl, h₂⟩ := Work.path_ask_bind_iff.1 hpatch
    cases reply with
    | ok object =>
      obtain ⟨rfl, -, rfl⟩ := Work.path_pure_iff.1 h₂
      obtain ⟨rfl, rfl⟩ := hmodify h₁
      simp [isAside, writesVolume]
    | error e' =>
      obtain ⟨rfl, rfl⟩ := Work.path_log_iff.1 h₂
      obtain ⟨rfl, rfl⟩ := hmodify h₁
      simp [isAside, writesVolume]
  · split at h
    · obtain ⟨u, rfl, h₁⟩ := Work.path_log_bind_iff.1 h
      obtain ⟨rfl, rfl⟩ := hmodify h₁
      simp [isAside]
    · obtain ⟨rfl, rfl⟩ := hmodify h
      simp

/-- The persistent volume for a volume that has been made for a claim. -/
def volumeFor (o : Options) (claim : PersistentVolumeClaim) (made : LocalVolume) : PersistentVolume :=
  bindToClaim made.toPersistentVolume claim o.provisioner

theorem path_createVolume {made : LocalVolume} (h : Path (createVolume o claim made) p t () q) :
    ∃ reply u, t = .called (.api (.create .persistentVolume none (volumeFor o claim made))) reply :: u ∧
      (∀ e ∈ u, isAside e = true) ∧ q = p := by
  unfold createVolume at h
  obtain ⟨reply, u, rfl, h₁⟩ := Work.path_ask_bind_iff.1 h
  refine ⟨reply, u, rfl, ?_⟩
  cases reply with
  | ok object =>
    obtain ⟨rfl, -, rfl⟩ := Work.path_pure_iff.1 h₁
    simp
  | error e =>
    obtain ⟨rfl, rfl⟩ := Work.path_log_iff.1 h₁
    simp [isAside]

/-! ### Whole visits -/

/-- What the visit to a claim that needs a volume comes to: what happens, and what is parked then. -/
inductive Served (o : Options) (claim : PersistentVolumeClaim) (p : Parked) :
    List Event → Parked → Prop
  /-- The claim has no uid or is parked. -/
  | passedOver {t : List Event} : (∀ volume, volumeName? claim = some volume → p.holds claim = true) →
      (∀ e ∈ t, isAside e = true) → Served o claim p t p
  /-- The volume exists, or cannot be looked up. -/
  | notAbsent {volume : String} {reply : Api.Reply (.get .persistentVolume none volume)}
      {t : List Event} : isAbsent reply = false → (∀ e ∈ t, isAside e = true) →
      Served o claim p (lookup .persistentVolume volume reply :: t) p
  /-- The volume cannot be provisioned. -/
  | failed {volume : String} {reply : Api.Reply (.get .persistentVolume none volume)}
      {node : Option Node} {e : Error} {t u : List Event} : volumeName? claim = some volume →
      p.holds claim = false → isAbsent reply = true → (∀ e ∈ t, isAside e = true) →
      (∀ e ∈ u, isAside e = true) →
      Served o claim p (lookup .persistentVolume volume reply ::
        (t ++ .called (.provision ⟨volume, claim, node⟩) (.error e) :: u)) (p.park claim e)
  /-- The volume is provisioned, and its persistent volume created. -/
  | made {volume : String} {reply : Api.Reply (.get .persistentVolume none volume)}
      {node : Option Node} {made : LocalVolume}
      {created : Api.Reply (.create .persistentVolume none (volumeFor o claim made))}
      {t u : List Event} : volumeName? claim = some volume →
      p.holds claim = false → isAbsent reply = true → (∀ e ∈ t, isAside e = true) →
      (∀ e ∈ u, isAside e = true) →
      Served o claim p (lookup .persistentVolume volume reply ::
        (t ++ .called (.provision ⟨volume, claim, node⟩) (.ok made) ::
          .called (.api (.create .persistentVolume none (volumeFor o claim made))) created :: u))
        (p.free claim)

theorem path_chosenNode {ns name : String} {node : Option Node}
    (h : Path (chosenNode claim ns name) p t node q) : (∀ e ∈ t, isAside e = true) ∧ q = p := by
  unfold chosenNode at h
  obtain ⟨u, v, found, p', rfl, hfound, h₁⟩ := Work.path_bind_iff.1 h
  obtain ⟨hu, rfl⟩ := path_selectedNode hfound
  cases found with
  | ok node =>
    obtain ⟨rfl, -, rfl⟩ := Work.path_pure_iff.1 h₁
    simpa using hu
  | error e =>
    obtain ⟨w, rfl, h₂⟩ := Work.path_log_bind_iff.1 h₁
    obtain ⟨rfl, -, rfl⟩ := Work.path_pure_iff.1 h₂
    refine ⟨?_, rfl⟩
    rw [List.forall_mem_append]
    exact ⟨hu, by simp [isAside]⟩

theorem served_of_provisionAbsent {ns name volume : String}
    {reply : Api.Reply (.get .persistentVolume none volume)} (hvolume : volumeName? claim = some volume)
    (hparked : p.holds claim = false) (habsent : isAbsent reply = true)
    (h : Path (provisionAbsent o claim ns name volume) p t () q) :
    Served o claim p (lookup .persistentVolume volume reply :: t) q := by
  unfold provisionAbsent at h
  obtain ⟨u, v, node, p', rfl, hnode, h₁⟩ := Work.path_bind_iff.1 h
  obtain ⟨hu, rfl⟩ := path_chosenNode hnode
  obtain ⟨outcome, w, rfl, h₂⟩ := Work.path_ask_bind_iff.1 h₁
  cases outcome with
  | error e =>
    obtain ⟨hw, rfl⟩ := path_onFailure h₂
    exact .failed hvolume hparked habsent hu hw
  | ok made =>
    have h₃ := Work.path_modify_bind_iff.1 h₂
    obtain ⟨created, x, rfl, hx, rfl⟩ := path_createVolume h₃
    exact .made hvolume hparked habsent hu hx

/-- Every visit to a claim that needs a volume goes in one of the four ways. -/
theorem served_of_path (h : Path (provisionClaim o claim) p t () q) : Served o claim p t q := by
  unfold provisionClaim at h
  cases hvolume : volumeName? claim with
  | none =>
    simp only [hvolume] at h
    obtain ⟨rfl, rfl⟩ := Work.path_log_iff.1 h
    refine .passedOver ?_ (by simp [isAside])
    intro volume hsome
    rw [hvolume] at hsome
    cases hsome
  | some volume =>
    simp only [hvolume] at h
    have h₁ := Work.path_get_bind_iff.1 h
    split at h₁
    case isTrue hparked =>
      obtain ⟨rfl, -, rfl⟩ := Work.path_pure_iff.1 h₁
      exact .passedOver (fun _ _ => hparked) (by simp)
    case isFalse hparked =>
      obtain ⟨u, v, found, p', rfl, hfound, h₂⟩ := Work.path_bind_iff.1 h₁
      obtain ⟨reply, rfl, rfl, hreply⟩ := path_getOpt hfound
      have hne (hother : found ≠ .ok none) : isAbsent reply = false := by
        rw [Bool.eq_false_iff]
        exact fun habsent => hother (hreply.2 habsent)
      cases found with
      | error e =>
        obtain ⟨rfl, rfl⟩ := Work.path_log_iff.1 h₂
        exact .notAbsent (hne (by simp)) (by simp [isAside])
      | ok found =>
        cases found with
        | some pv =>
          obtain ⟨rfl, -, rfl⟩ := Work.path_pure_iff.1 h₂
          exact .notAbsent (hne (by simp)) (by simp)
        | none => exact served_of_provisionAbsent hvolume (Bool.eq_false_iff.2 hparked) (hreply.1 rfl) h₂

/-! ### Claims that are due -/

/-- A claim is due when it needs a volume of the classes, has a uid, is not parked, and the volume of its name
is looked up at the start of the visit and found absent. -/
structure IsDue (classes : List String) (v : Visit PersistentVolumeClaim) : Prop where
  needed : needsVolume v.item classes = true
  unparked : v.before.holds v.item = false
  absent : ∃ uid reply rest, v.item.metadata.uid = some uid ∧ uid ≠ "" ∧ isAbsent reply = true ∧
    v.events = lookup .persistentVolume ("pvc-" ++ uid) reply :: rest

/-- A volume is provisioned for the claim of a visit. When it is made, its persistent volume is created once
and the claim is freed, else the failure decides whether the claim is parked. -/
structure IsProvisioned (o : Options) (v : Visit PersistentVolumeClaim)
    (outcome : Except Error LocalVolume) : Prop where
  once : ∃ volume node, volumeName? v.item = some volume ∧
    provisions v.events = [(⟨volume, v.item, node⟩, outcome)]
  created : creations v.events = (outcome.toOption.map (volumeFor o v.item)).toList
  parked : v.after = match outcome with
    | .ok _ => v.before.free v.item
    | .error e => v.before.park v.item e

/-- Nothing is done for the claim of a visit. -/
structure IsLeft (v : Visit PersistentVolumeClaim) : Prop where
  unprovisioned : provisions v.events = []
  uncreated : creations v.events = []
  parked : v.after = v.before

theorem volumeName?_eq_some_iff {volume : String} :
    volumeName? claim = some volume ↔
      ∃ uid, claim.metadata.uid = some uid ∧ uid ≠ "" ∧ volume = "pvc-" ++ uid := by
  unfold volumeName?
  cases claim.metadata.uid with
  | none => simp
  | some uid =>
    by_cases hempty : uid = ""
    · simp [Option.filter, hempty]
    · simpa [Option.filter, hempty] using eq_comm

@[simp] theorem provisions_lookup {kind : Kind} {name : String} {reply : Api.Reply (.get kind none name)}
    {t : List Event} : provisions (lookup kind name reply :: t) = provisions t := rfl

@[simp] theorem creations_lookup {kind : Kind} {name : String} {reply : Api.Reply (.get kind none name)}
    {t : List Event} : creations (lookup kind name reply :: t) = creations t := rfl

theorem isDue_of_absent {volume : String} {reply : Api.Reply (.get .persistentVolume none volume)}
    {rest : List Event} (hneeds : needsVolume claim classes = true)
    (hvolume : volumeName? claim = some volume) (hparked : p.holds claim = false)
    (habsent : isAbsent reply = true) :
    IsDue classes ⟨claim, p, lookup .persistentVolume volume reply :: rest, q⟩ := by
  obtain ⟨uid, huid, hne, rfl⟩ := volumeName?_eq_some_iff.1 hvolume
  exact ⟨hneeds, hparked, uid, reply, rest, huid, hne, habsent, rfl⟩

theorem IsDue.events_eq {v : Visit PersistentVolumeClaim} {volume : String} (h : IsDue classes v)
    (hvolume : volumeName? v.item = some volume) :
    ∃ reply rest, isAbsent reply = true ∧ v.events = lookup .persistentVolume volume reply :: rest := by
  obtain ⟨uid, reply, rest, huid, -, habsent, hevents⟩ := h.absent
  obtain ⟨uid', huid', -, rfl⟩ := volumeName?_eq_some_iff.1 hvolume
  cases huid.symm.trans huid'
  exact ⟨reply, rest, habsent, hevents⟩

/-- A visit provisions its claim when the claim is due, and else does nothing for it. -/
theorem provisions_of_visit (h : Path (serveClaim o classes claim) p t () q) :
    (IsDue classes ⟨claim, p, t, q⟩ → ∃ outcome, IsProvisioned o ⟨claim, p, t, q⟩ outcome) ∧
      (¬IsDue classes ⟨claim, p, t, q⟩ → IsLeft ⟨claim, p, t, q⟩) := by
  unfold serveClaim at h
  split at h
  case isFalse hneeds =>
    obtain ⟨rfl, -, rfl⟩ := Work.path_pure_iff.1 h
    exact ⟨fun hdue => absurd hdue.needed hneeds, fun _ => ⟨rfl, rfl, rfl⟩⟩
  case isTrue hneeds =>
    cases served_of_path h with
    | passedOver hskip haside =>
      refine ⟨fun hdue => ?_, fun _ => ?_⟩
      · obtain ⟨uid, reply, rest, huid, hne, -⟩ := hdue.absent
        have hparked := hskip _ (volumeName?_eq_some_iff.2 ⟨uid, huid, hne, rfl⟩)
        have hunparked : p.holds claim = false := hdue.unparked
        rw [hunparked] at hparked
        cases hparked
      · exact ⟨provisions_of_isAside haside, creations_of_isAside haside, rfl⟩
    | notAbsent hpresent haside =>
      refine ⟨fun hdue => ?_, fun _ => ?_⟩
      · obtain ⟨uid, reply, rest, -, -, habsent, hevents⟩ := hdue.absent
        cases hevents
        rw [hpresent] at habsent
        cases habsent
      · have hprovisions := provisions_of_isAside haside
        have hcreations := creations_of_isAside haside
        exact ⟨provisions_lookup.trans hprovisions, creations_lookup.trans hcreations, rfl⟩
    | @failed volume reply node e t u hvolume hparked habsent ht hu =>
      have hprovisions : provisions (t ++ .called (.provision ⟨volume, claim, node⟩) (.error e) :: u) =
          [(⟨volume, claim, node⟩, .error e)] := by
        simp [provisions_of_isAside ht, provisions_of_isAside hu]
      have hcreations : creations (t ++ .called (.provision ⟨volume, claim, node⟩) (.error e) :: u) =
          [] := by
        simp [creations_of_isAside ht, creations_of_isAside hu]
      exact ⟨fun _ => ⟨.error e, ⟨volume, node, hvolume, hprovisions⟩, hcreations, rfl⟩,
        fun hnot => absurd (isDue_of_absent hneeds hvolume hparked habsent) hnot⟩
    | @made volume reply node made created t u hvolume hparked habsent ht hu =>
      have hprovisions : provisions (t ++ .called (.provision ⟨volume, claim, node⟩) (.ok made) ::
          .called (.api (.create .persistentVolume none (volumeFor o claim made))) created :: u) =
          [(⟨volume, claim, node⟩, .ok made)] := by
        simp [provisions_of_isAside ht, provisions_of_isAside hu]
      have hcreations : creations (t ++ .called (.provision ⟨volume, claim, node⟩) (.ok made) ::
          .called (.api (.create .persistentVolume none (volumeFor o claim made))) created :: u) =
          [volumeFor o claim made] := by
        simp [creations_of_isAside ht, creations_of_isAside hu]
      exact ⟨fun _ => ⟨.ok made, ⟨volume, node, hvolume, hprovisions⟩, hcreations, rfl⟩,
        fun hnot => absurd (isDue_of_absent hneeds hvolume hparked habsent) hnot⟩

/-- When a volume is provisioned in the visit to a claim, the claim is due, and the volume is its own. -/
theorem provisioned_of_visit (h : Path (serveClaim o classes claim) p t () q) {request : ProvisionRequest}
    {outcome : Except Error LocalVolume} (hmem : .called (.provision request) outcome ∈ t) :
    IsDue classes ⟨claim, p, t, q⟩ ∧ IsProvisioned o ⟨claim, p, t, q⟩ outcome ∧ request.claim = claim ∧
      volumeName? claim = some request.volume := by
  have hprovision : (request, outcome) ∈ provisions t := mem_provisions_iff.2 hmem
  obtain ⟨hwhen, hunless⟩ := provisions_of_visit h
  by_cases hdue : IsDue classes ⟨claim, p, t, q⟩
  · obtain ⟨outcome', hprovisioned⟩ := hwhen hdue
    obtain ⟨volume, node, hvolume, honce⟩ := hprovisioned.once
    simp only [honce] at hprovision
    cases List.mem_singleton.1 hprovision
    exact ⟨hdue, hprovisioned, rfl, hvolume⟩
  · have hnone := (hunless hdue).unprovisioned
    simp only [hnone] at hprovision
    cases hprovision

theorem isForClaims_of_visit (h : Path (serveClaim o classes claim) p t () q) :
    ∀ e ∈ t, isForClaims e = true := by
  unfold serveClaim at h
  split at h
  case isFalse =>
    obtain ⟨rfl, -, -⟩ := Work.path_pure_iff.1 h
    simp
  case isTrue =>
    have haside {u : List Event} (hu : ∀ e ∈ u, isAside e = true) : ∀ e ∈ u, isForClaims e = true :=
      fun e he => isForClaims_of_isAside (hu e he)
    have hlookup {volume : String} {reply : Api.Reply (.get .persistentVolume none volume)} :
        isForClaims (lookup .persistentVolume volume reply) = true := rfl
    cases served_of_path h with
    | passedOver _ ht => exact haside ht
    | notAbsent _ ht => exact List.forall_mem_cons.2 ⟨hlookup, haside ht⟩
    | failed _ _ _ ht hu =>
      refine List.forall_mem_cons.2 ⟨hlookup, List.forall_mem_append.2 ⟨haside ht, ?_⟩⟩
      exact List.forall_mem_cons.2 ⟨rfl, haside hu⟩
    | made _ _ _ ht hu =>
      refine List.forall_mem_cons.2 ⟨hlookup, List.forall_mem_append.2 ⟨haside ht, ?_⟩⟩
      exact List.forall_mem_cons.2 ⟨rfl, List.forall_mem_cons.2 ⟨rfl, haside hu⟩⟩

/-- In a visit to a claim, a persistent volume is created directly after its volume has been made, and the
volume has been looked up before and found absent. -/
theorem created_of_visit (h : Path (serveClaim o classes claim) p t () q) {pre post : List Event}
    {ns : Option String} {pv : PersistentVolume} {created : Api.Reply (.create .persistentVolume ns pv)}
    (ht : t = pre ++ .called (.api (.create .persistentVolume ns pv)) created :: post) :
    ∃ volume reply node made u, isAbsent reply = true ∧ pv = volumeFor o claim made ∧
      pre = lookup .persistentVolume volume reply ::
        (u ++ [.called (.provision ⟨volume, claim, node⟩) (.ok made)]) := by
  have hno {u : List Event} (hu : ∀ e ∈ u, isAside e = true) :
      .called (.api (.create .persistentVolume ns pv)) created ∉ u := by
    intro hmem
    cases hu _ hmem
  unfold serveClaim at h
  split at h
  case isFalse =>
    obtain ⟨rfl, -, -⟩ := Work.path_pure_iff.1 h
    simp at ht
  case isTrue =>
    cases served_of_path h with
    | passedOver _ haside => exact absurd (by simp [ht]) (hno haside)
    | notAbsent _ haside =>
      obtain ⟨v, rfl, hv⟩ := Program.cons_eq_of_ne ht (by simp [lookup])
      exact absurd (by simp [hv]) (hno haside)
    | failed _ _ _ hu hw =>
      obtain ⟨v, rfl, hv⟩ := Program.cons_eq_of_ne ht (by simp [lookup])
      obtain ⟨x, rfl, hx⟩ := Program.append_eq_of_not_mem hv (hno hu)
      obtain ⟨y, rfl, hy⟩ := Program.cons_eq_of_ne hx (by simp)
      exact absurd (by simp [hy]) (hno hw)
    | @made volume reply node made created' u w _ _ habsent hu hw =>
      obtain ⟨v, rfl, hv⟩ := Program.cons_eq_of_ne ht (by simp [lookup])
      obtain ⟨x, rfl, hx⟩ := Program.append_eq_of_not_mem hv (hno hu)
      obtain ⟨y, rfl, hy⟩ := Program.cons_eq_of_ne hx (by simp)
      cases y with
      | nil =>
        cases hy
        exact ⟨volume, reply, node, made, u, habsent, rfl, rfl⟩
      | cons e y =>
        obtain ⟨rfl, rfl⟩ := List.cons.inj (hy.trans (List.cons_append ..))
        exact absurd (by simp) (hno hw)

end NodeVolumes.Controller
