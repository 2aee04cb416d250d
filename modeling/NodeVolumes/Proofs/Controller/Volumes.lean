import NodeVolumes.Proofs.Controller.Visit

/-! # Visits to volumes

What the visit to a persistent volume can come to.

* `Disposed`: the visits to persistent volumes; `disposed_of_path` says that there are no others.
* `isReleased_iff`: which persistent volumes are released. -/

namespace NodeVolumes.Controller

open Work (Path)

variable {o : Options} {pv : PersistentVolume} {p q : Parked} {t : List Event}

/-- What happens in the visit to a persistent volume. -/
inductive Disposed (o : Options) (pv : PersistentVolume) : List Event → Prop
  /-- The volume is not a released one of ours. -/
  | leftAlone : isReleased pv o.provisioner = false → Disposed o pv []
  /-- The volume cannot be deleted, which is logged. -/
  | failed {e : Error} {n : Note} : isReleased pv o.provisioner = true →
      Disposed o pv [.called (.delete pv) (.error e), .told n]
  /-- The volume is deleted, and then its persistent volume. -/
  | removed {reply : Api.Reply (.delete .persistentVolume none pv.metadata.nameD)} {t : List Event} :
      isReleased pv o.provisioner = true → (∀ e ∈ t, e.call? = none) →
      Disposed o pv (.called (.delete pv) (.ok ()) ::
        .called (.api (.delete .persistentVolume none pv.metadata.nameD)) reply :: t)

/-- Every visit to a persistent volume goes in one of the three ways, and parks and frees nothing. -/
theorem disposed_of_path (h : Path (serveVolume o pv) p t () q) : Disposed o pv t ∧ q = p := by
  unfold serveVolume at h
  split at h
  case isFalse hother =>
    obtain ⟨rfl, -, rfl⟩ := Work.path_pure_iff.1 h
    exact ⟨.leftAlone (Bool.eq_false_iff.2 hother), rfl⟩
  case isTrue hreleased =>
    unfold deleteVolume at h
    obtain ⟨outcome, u, rfl, h₁⟩ := Work.path_ask_bind_iff.1 h
    cases outcome with
    | error e =>
      simp only at h₁
      split at h₁
      · obtain ⟨rfl, rfl⟩ := Work.path_log_iff.1 h₁
        exact ⟨.failed hreleased, rfl⟩
      · obtain ⟨rfl, rfl⟩ := Work.path_log_iff.1 h₁
        exact ⟨.failed hreleased, rfl⟩
    | ok _ =>
      obtain ⟨reply, v, rfl, h₂⟩ := Work.path_ask_bind_iff.1 h₁
      cases reply with
      | ok _ =>
        obtain ⟨rfl, -, rfl⟩ := Work.path_pure_iff.1 h₂
        exact ⟨.removed hreleased (by simp), rfl⟩
      | error e =>
        simp only at h₂
        split at h₂
        · obtain ⟨rfl, rfl⟩ := Work.path_log_iff.1 h₂
          exact ⟨.removed hreleased (by simp), rfl⟩
        · obtain ⟨rfl, -, rfl⟩ := Work.path_pure_iff.1 h₂
          exact ⟨.removed hreleased (by simp), rfl⟩

/-- The released volumes of a provisioner are those that are released, to be deleted, marked with its name and
not on their way out yet. -/
theorem isReleased_iff {provisioner : String} : isReleased pv provisioner = true ↔
    pv.status.bind (·.phase) = some "Released" ∧ pv.spec.bind (·.reclaimPolicy) = some deletePolicy ∧
      annotation? pv.metadata provisionedByKey = some provisioner ∧
      pv.metadata.deletionTimestamp = none := by
  unfold isReleased
  simp [and_assoc]

theorem nothing_made_of_disposed (h : Disposed o pv t) : provisions t = [] ∧ creations t = [] := by
  cases h with
  | leftAlone _ => exact ⟨rfl, rfl⟩
  | failed _ => exact ⟨rfl, rfl⟩
  | @removed reply told _ htold =>
    have haside : ∀ e ∈ told, isAside e = true := by
      intro e he
      have hsilent := htold e he
      cases e with
      | called k r => cases hsilent
      | slept ms cut => rfl
      | polled b => rfl
      | told n => rfl
    have hprovisions : provisions told = [] := provisions_of_isAside haside
    have hcreations : creations told = [] := creations_of_isAside haside
    exact ⟨hprovisions, hcreations⟩

end NodeVolumes.Controller
