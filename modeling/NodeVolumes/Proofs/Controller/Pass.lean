import NodeVolumes.Proofs.Controller.Claims
import NodeVolumes.Proofs.Controller.Volumes

/-! # Whole passes

A pass visits the claims that it lists, and then the persistent volumes that it lists.

* `PassShape`: the ways in which a pass can go; `passShape_of_path` says that there are no others.
* `PassShape.visit_of_made`: what is made in a pass is made in one of its visits to claims. -/

namespace NodeVolumes.Controller

open Work (Path)

variable {o : Options} {p q : Parked} {t : List Event}

/-! ### One pass -/

/-- The listing of all objects of a kind. -/
def listing (kind : Kind) (reply : Api.Reply (.list kind none none)) : Event :=
  .called (.api (.list kind none none)) reply

/-- What a pass does after its visits to claims: it visits the volumes, unless it has been cancelled. -/
inductive VolumesPart (o : Options) : Bool → List Event → Prop
  | cancelled : VolumesPart o true []
  | unlisted {e : ApiError} : VolumesPart o false [listing .persistentVolume (.error e)]
  | visited {volumes rest : List PersistentVolume} {visits : List (Visit PersistentVolume)}
      {p q : Parked} {cancelled : Bool} : volumes = visits.map (·.item) ++ rest →
      Visits (serveVolume o) p visits q →
      VolumesPart o false (listing .persistentVolume (.ok volumes) ::
        (eventsIn visits ++ ending cancelled))

/-- What a pass does, and what is parked then. -/
inductive PassShape (o : Options) (p : Parked) : List Event → Parked → Prop
  /-- The classes or the claims cannot be listed. -/
  | unlisted {t : List Event} : (∀ e ∈ t, isAside e = true) →
      (∀ claims, listing .persistentVolumeClaim (.ok claims) ∉ t) → PassShape o p t p
  /-- The listed claims are visited, until the pass is cancelled, and then the volumes. -/
  | visited {classes : List StorageClass} {claims rest : List PersistentVolumeClaim}
      {visits : List (Visit PersistentVolumeClaim)} {cancelled : Bool} {t : List Event} {q : Parked} :
      claims = visits.map (·.item) ++ rest → (cancelled = true ↔ rest ≠ []) →
      Visits (serveClaim o (ourClasses o classes)) (p.keepListed claims) visits q →
      VolumesPart o cancelled t →
      PassShape o p (listing .storageClass (.ok classes) ::
        listing .persistentVolumeClaim (.ok claims) :: (eventsIn visits ++ ending cancelled ++ t)) q

theorem parked_of_visits {visits : List (Visit PersistentVolume)} (h : Visits (serveVolume o) p visits q) :
    q = p := by
  induction h with
  | nil p => rfl
  | cons hvisit _ ih => exact ih.trans (disposed_of_path hvisit).2

theorem nothing_made_of_volumesPart {cancelled : Bool} (h : VolumesPart o cancelled t) :
    provisions t = [] ∧ creations t = [] := by
  cases h with
  | cancelled => exact ⟨rfl, rfl⟩
  | unlisted => exact ⟨rfl, rfl⟩
  | @visited volumes rest visits p q cancelled _ hvisits =>
    have hnone : ∀ v ∈ visits, provisions v.events = [] ∧ creations v.events = [] :=
      fun v hv => nothing_made_of_disposed (disposed_of_path (hvisits.path_of_mem v hv)).1
    have hprovisions : provisions (eventsIn visits ++ ending cancelled) = [] := by
      rw [provisions_append, provisions_eventsIn, provisions_of_isAside isAside_ending,
        List.append_nil, List.flatMap_eq_nil_iff]
      exact fun v hv => (hnone v hv).1
    have hcreations : creations (eventsIn visits ++ ending cancelled) = [] := by
      rw [creations_append, creations_eventsIn, creations_of_isAside isAside_ending,
        List.append_nil, List.flatMap_eq_nil_iff]
      exact fun v hv => (hnone v hv).2
    exact ⟨hprovisions, hcreations⟩

/-- Every pass goes in one of these ways. -/
theorem passShape_of_path {r : Except Error Unit} (h : Path (pass o) p t r q) : PassShape o p t q := by
  unfold pass at h
  obtain ⟨classes, u, rfl, h₁⟩ := Work.path_ask_bind_iff.1 h
  cases classes with
  | error e =>
    obtain ⟨rfl, -, rfl⟩ := Work.path_pure_iff.1 h₁
    exact .unlisted (by simp [isAside, writesVolume]) (by simp [listing])
  | ok classes =>
    obtain ⟨claims, v, rfl, h₂⟩ := Work.path_ask_bind_iff.1 h₁
    cases claims with
    | error e =>
      obtain ⟨rfl, -, rfl⟩ := Work.path_pure_iff.1 h₂
      exact .unlisted (by simp [isAside, writesVolume]) (by simp [listing])
    | ok claims =>
      have h₃ := Work.path_modify_bind_iff.1 h₂
      obtain ⟨x, y, cancelled, p', rfl, hclaims, h₄⟩ := Work.path_bind_iff.1 h₃
      obtain ⟨visits, rest, hitems, hvisits, hcancelled, rfl⟩ := path_untilCancelled hclaims
      cases cancelled with
      | true =>
        obtain ⟨rfl, -, rfl⟩ := Work.path_pure_iff.1 h₄
        exact .visited hitems hcancelled hvisits .cancelled
      | false =>
        obtain ⟨volumes, z, rfl, h₅⟩ := Work.path_ask_bind_iff.1 h₄
        cases volumes with
        | error e =>
          obtain ⟨rfl, -, rfl⟩ := Work.path_pure_iff.1 h₅
          exact .visited hitems hcancelled hvisits .unlisted
        | ok volumes =>
          obtain ⟨w, x, _, p'', rfl, hvolumes, h₆⟩ := Work.path_bind_iff.1 h₅
          obtain ⟨rfl, -, rfl⟩ := Work.path_pure_iff.1 h₆
          obtain ⟨disposals, left, hlisted, hdisposals, -, rfl⟩ := path_untilCancelled hvolumes
          cases parked_of_visits hdisposals
          rw [List.append_nil]
          exact .visited hitems hcancelled hvisits (.visited hlisted hdisposals)

/-- Volumes are provisioned and persistent volumes created in visits to claims alone. -/
theorem PassShape.visit_of_made (h : PassShape o p t q) {k : Task} {r : k.Reply} {pre post : List Event}
    (ht : t = pre ++ .called k r :: post)
    (hmade : ¬(provision? (.called k r) = none ∧ creation? (.called k r) = none)) :
    ∃ classes claims rest earlier visit later cancelled u w tail,
      claims = (earlier ++ visit :: later).map (·.item) ++ rest ∧
      Visits (serveClaim o (ourClasses o classes)) (p.keepListed claims) (earlier ++ visit :: later) q ∧
      VolumesPart o cancelled tail ∧ visit.events = u ++ .called k r :: w ∧
      pre = listing .storageClass (.ok classes) :: listing .persistentVolumeClaim (.ok claims) ::
        (eventsIn earlier ++ .polled false :: u) ∧
      post = w ++ eventsIn later ++ (ending cancelled ++ tail) := by
  have haside {u : List Event} (hu : ∀ e ∈ u, isAside e = true) : .called k r ∉ u := by
    intro hmem
    exact hmade ⟨provision?_of_isAside (hu _ hmem), creation?_of_isAside (hu _ hmem)⟩
  have hne {e : Event} (he : isAside e = true) : e ≠ .called k r := by
    rintro rfl
    exact haside (u := [.called k r]) (by simpa using he) (by simp)
  cases h with
  | unlisted hu _ => exact absurd (by simp [ht]) (haside hu)
  | @visited classes claims rest visits cancelled tail q hclaims _ hvisits htail =>
    obtain ⟨x, rfl, hx⟩ := Program.cons_eq_of_ne ht (hne rfl)
    obtain ⟨y, rfl, hy⟩ := Program.cons_eq_of_ne hx (hne rfl)
    rw [List.append_assoc] at hy
    rcases Program.append_eq_append_cons hy with ⟨z, hz, rfl⟩ | ⟨z, -, hz⟩
    · obtain ⟨earlier, visit, later, u, w, rfl, hevents, rfl, rfl⟩ := exists_visit_of_eventsIn hz
      exact ⟨classes, claims, rest, earlier, visit, later, cancelled, u, w, tail, hclaims, hvisits, htail,
        hevents, rfl, rfl⟩
    · -- visits to volumes make nothing
      obtain ⟨v, -, hv⟩ := Program.append_eq_of_not_mem hz (haside isAside_ending)
      obtain ⟨hprovisions, hcreations⟩ := nothing_made_of_volumesPart htail
      have hmem : .called k r ∈ tail := by simp [hv]
      exact absurd ⟨List.filterMap_eq_nil_iff.1 hprovisions _ hmem,
        List.filterMap_eq_nil_iff.1 hcreations _ hmem⟩ hmade

end NodeVolumes.Controller
