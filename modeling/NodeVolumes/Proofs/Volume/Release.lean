import NodeVolumes.Proofs.Volume.Record

/-! # Released volumes

Between the making of a volume and its removal there is only its persistent volume, tied to the claim that it
was made for and marked with the provisioner. When the claim is gone, two readers look at this object: the
controller asks whether the volume is to be deleted, and the engine takes the record of the volume from it.

* `Controller.isReleased_bindToClaim`: a released volume is to be deleted when its reclaim policy says so.
* `tied_volume_is_read_back`: the record says about the volume what there is to say, tied or not. -/

namespace NodeVolumes

namespace VolumeRecord

theorem path_record (v : LocalVolume) :
    v.record.path = if v.backing.path = "" then none else some v.backing.path := by
  by_cases hpath : v.backing.path = ""
  · simp [LocalVolume.record, hpath]
  · simp [LocalVolume.record, hpath]

theorem claimName_record_eq_some_iff (v : LocalVolume) (claim : String) :
    v.record.claimName = some claim ↔
      claim ≠ "" ∧ ∃ path fsType, v.backing = .device path fsType claim := by
  have hbacking : v.backing.claim? = some claim ↔ ∃ path fsType, v.backing = .device path fsType claim := by
    cases v.backing with
    | hostPath path => simp [Backing.claim?]
    | device path fsType name => simp [Backing.claim?]
  unfold LocalVolume.record
  rw [Option.filter_eq_some_iff, hbacking, decide_eq_true_iff, and_comm]

end VolumeRecord

namespace Controller

theorem annotation?_bindToClaim (pv : PersistentVolume) (claim : PersistentVolumeClaim)
    {provisioner : String} (hprovisioner : provisioner ≠ "") :
    annotation? (bindToClaim pv claim provisioner).metadata provisionedByKey = some provisioner := by
  have hmark : (bindToClaim pv claim provisioner).metadata.annotation? provisionedByKey =
      some provisioner := KeyMap.get?_insert_self ..
  unfold annotation?
  rw [hmark, Option.filter_eq_some_iff]
  exact ⟨rfl, decide_eq_true hprovisioner⟩

/-- The volume of a claim, once it is released, is to be deleted by its provisioner exactly when its reclaim
policy is to delete. -/
theorem isReleased_bindToClaim (v : LocalVolume) (claim : PersistentVolumeClaim) {provisioner : String}
    (hprovisioner : provisioner ≠ "") (status : VolumeStatus) :
    isReleased { bindToClaim v.toPersistentVolume claim provisioner with
        status := some { status with phase := some "Released" } } provisioner = true ↔
      v.reclaimPolicy = deletePolicy := by
  have hmark := annotation?_bindToClaim v.toPersistentVolume claim hprovisioner
  have hpolicy : (bindToClaim v.toPersistentVolume claim provisioner).spec.bind (·.reclaimPolicy) =
      some v.reclaimPolicy := rfl
  have hkept : (bindToClaim v.toPersistentVolume claim provisioner).metadata.deletionTimestamp = none := rfl
  unfold isReleased
  simp [hmark, hpolicy, hkept]

end Controller

/-- What is written of a volume is read back from the persistent volume that is tied to the claim.

The record is the one of the untied persistent volume. It has the name, the storage kind, all node labels and
the reclaim policy of the volume, its path unless that is empty, and the device claim exactly when there is one
with a name; and the released object is to be deleted exactly when the policy of the volume is to delete. -/
theorem tied_volume_is_read_back {v : LocalVolume} (hname : v.name ≠ "") (claim : PersistentVolumeClaim)
    {provisioner : String} (hprovisioner : provisioner ≠ "") :
    let tied := Controller.bindToClaim v.toPersistentVolume claim provisioner
    (∃ record, VolumeRecord.ofPersistentVolume tied = .ok record ∧
      VolumeRecord.ofPersistentVolume v.toPersistentVolume = .ok record ∧
      record.name = v.name ∧ record.kind = v.backing.kind ∧ record.nodeAffinity = v.nodeAffinity ∧
      record.reclaimPolicy = v.reclaimPolicy ∧
      record.path = (if v.backing.path = "" then none else some v.backing.path) ∧
      ∀ name, record.claimName = some name ↔
        name ≠ "" ∧ ∃ path fsType, v.backing = .device path fsType name) ∧
    ∀ status : VolumeStatus,
      Controller.isReleased { tied with status := some { status with phase := some "Released" } }
        provisioner = true ↔ v.reclaimPolicy = deletePolicy := by
  intro tied
  have hread := VolumeRecord.ofPersistentVolume_toPersistentVolume hname
  have htied : VolumeRecord.ofPersistentVolume tied = .ok v.record :=
    (VolumeRecord.ofPersistentVolume_bindToClaim ..).trans hread
  refine ⟨⟨v.record, htied, hread, rfl, rfl, rfl, rfl, ?_, ?_⟩, ?_⟩
  · exact VolumeRecord.path_record v
  · exact VolumeRecord.claimName_record_eq_some_iff v
  · exact Controller.isReleased_bindToClaim v claim hprovisioner

/-- A device volume on two node labels, which is to be retained. -/
theorem tied_volume_is_read_back_retained :
    let v : LocalVolume :=
      { name := "pvc-1"
        backing := .device "/dev/sdb" (some "xfs") "bdc-pvc-1"
        nodeAffinity := (KeyMap.singleton hostnameLabel "node-1").insert "rack" "r1"
        capacity := some "1Gi"
        accessModes := [readWriteOnce]
        reclaimPolicy := retainPolicy
        volumeMode := filesystemMode
        storageClass := some "local" }
    let tied := Controller.bindToClaim v.toPersistentVolume { metadata := {} } "openebs.io/local"
    v.name ≠ "" ∧ "openebs.io/local" ≠ "" ∧
      (∃ record, VolumeRecord.ofPersistentVolume tied = .ok record ∧ record.claimName = some "bdc-pvc-1" ∧
        record.nodeAffinity = v.nodeAffinity) ∧
      Controller.isReleased { tied with status := some { phase := some "Released" } }
        "openebs.io/local" = false := by
  intro v tied
  have hname : v.name ≠ "" := by decide
  have hprovisioner : "openebs.io/local" ≠ "" := by decide
  obtain ⟨⟨record, htied, -, -, -, haffinity, -, -, hclaim⟩, hreleased⟩ :=
    tied_volume_is_read_back hname { metadata := {} } hprovisioner
  have hnamed : record.claimName = some "bdc-pvc-1" := (hclaim _).2 ⟨by decide, _, _, rfl⟩
  have hkept : v.reclaimPolicy ≠ deletePolicy := by decide
  refine ⟨hname, hprovisioner, ⟨record, htied, hnamed, haffinity⟩, ?_⟩
  exact Bool.eq_false_iff.2 fun h => hkept ((hreleased {}).1 h)

end NodeVolumes
