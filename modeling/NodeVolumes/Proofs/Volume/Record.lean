import NodeVolumes.Controller.Claims

/-! # Records of volumes

A volume is written to a persistent volume when it has been made, and read back when it is to be deleted.

* `KeyMap.ofList_toList` and `NodeSelector.toLabels_ofLabels`: maps and labels are read as they are written.
* `VolumeRecord.ofPersistentVolume_toPersistentVolume`: so is a volume.
* `VolumeRecord.ofPersistentVolume_bindToClaim`: to tie a persistent volume to its claim changes nothing
  about what is read.
* `LocalVolume.IsWrittenAs`: the persistent volumes for a volume, which all keep its record. -/

namespace NodeVolumes

/-! ### Maps and labels -/

namespace KeyMap

variable {κ α : Type} [Ord κ] [Std.TransOrd κ] [Std.LawfulEqOrd κ] [DecidableEq κ]

theorem get?_foldl_insert {l : List (κ × α)} (hl : l.Pairwise fun a b => compare a.1 b.1 = .lt)
    (m : KeyMap κ α) (k : κ) :
    (l.foldl (fun m e => m.insert e.1 e.2) m).get? k = (lookupEntry k l).or (m.get? k) := by
  induction l generalizing m with
  | nil => rfl
  | cons e rest ih =>
    obtain ⟨k', v⟩ := e
    rw [List.pairwise_cons] at hl
    rw [List.foldl_cons, ih hl.2, get?_insert]
    by_cases hk : k' = k
    · subst hk
      have hnone : lookupEntry k' rest = none := by
        rw [← Option.not_isSome_iff_eq_none, lookupEntry_isSome]
        intro hmem
        obtain ⟨e, he, hkey⟩ := List.mem_map.1 hmem
        have hlt := hl.1 e he
        rw [hkey] at hlt
        simp [Std.ReflCmp.compare_self] at hlt
      simp [lookupEntry, hnone]
    · simp [lookupEntry, hk]

theorem ofList_toList (m : KeyMap κ α) : ofList m.toList = m := by
  apply ext_get?
  intro k
  unfold ofList toList
  rw [get?_foldl_insert m.ascending, get?_empty, Option.or_none]
  rfl

end KeyMap

/-- The labels that a selector is made for are read back from it. -/
theorem NodeSelector.toLabels_ofLabels (labels : TextMap) : (ofLabels labels).toLabels = labels := by
  have hentries : ((ofLabels labels).terms.flatMap fun t => t.matchExpressions.getD []).filterMap
      (·.label?) = labels.toList := by
    simp [ofLabels, List.filterMap_map, Function.comp_def]
  unfold toLabels
  rw [hentries]
  exact KeyMap.ofList_toList labels

/-! ### Volumes -/

/-- The claim for the device that backs a volume. -/
def Backing.claim? : Backing → Option String
  | hostPath _ => none
  | device _ _ claim => some claim

/-- What is kept of a volume in its record. An empty path or name of a claim counts as missing. -/
def LocalVolume.record (v : LocalVolume) : VolumeRecord where
  name := v.name
  kind := v.backing.kind
  path := (some v.backing.path).filter (· ≠ "")
  nodeAffinity := v.nodeAffinity
  claimName := v.backing.claim?.filter (· ≠ "")
  reclaimPolicy := v.reclaimPolicy

namespace VolumeRecord

/-- A volume is read back as it is written. -/
theorem ofPersistentVolume_toPersistentVolume {v : LocalVolume} (hname : v.name ≠ "") :
    ofPersistentVolume v.toPersistentVolume = .ok v.record := by
  have hkept : v.toPersistentVolume.metadata.name.filter (· ≠ "") = some v.name := by
    simp [LocalVolume.toPersistentVolume, hname]
  have hkind : (if v.toPersistentVolume.metadata.label? storageKindLabel =
      some StorageKind.device.label then StorageKind.device else .hostPath) = v.backing.kind := by
    have hlabel : v.toPersistentVolume.metadata.label? storageKindLabel = some v.backing.kind.label :=
      KeyMap.get?_insert_self ..
    rw [hlabel]
    cases v.backing.kind <;> decide
  have hpath : v.toPersistentVolume.spec.bind pathOf = v.record.path := by
    obtain ⟨_, _ | _, _, _, _, _, _, _⟩ := v <;> rfl
  have haffinity : (v.toPersistentVolume.spec.map affinityOf).getD .empty = v.nodeAffinity :=
    NodeSelector.toLabels_ofLabels v.nodeAffinity
  have hclaim : (v.toPersistentVolume.metadata.annotation? deviceClaimKey).filter (· ≠ "") =
      v.record.claimName := by
    obtain ⟨_, _ | ⟨_, _, claim⟩, _, _, _, _, _, _⟩ := v
    · rfl
    · have hget : (KeyMap.singleton deviceClaimKey claim).get? deviceClaimKey = some claim :=
        KeyMap.get?_insert_self ..
      exact congrArg (Option.filter _) hget
  unfold ofPersistentVolume
  rw [hkept]
  dsimp only
  rw [hkind, hpath, haffinity, hclaim]
  rfl

theorem eq_record {v : LocalVolume} {record : VolumeRecord}
    (h : ofPersistentVolume v.toPersistentVolume = .ok record) : record = v.record := by
  by_cases hname : v.name = ""
  · have hnone : v.toPersistentVolume.metadata.name.filter (· ≠ "") = none := by
      simp [LocalVolume.toPersistentVolume, hname]
    unfold ofPersistentVolume at h
    rw [hnone] at h
    cases h
  · rw [ofPersistentVolume_toPersistentVolume hname] at h
    cases h
    rfl

/-- A persistent volume that is tied to its claim has the same record. -/
theorem ofPersistentVolume_bindToClaim (pv : PersistentVolume) (claim : PersistentVolumeClaim)
    (provisioner : String) :
    ofPersistentVolume (Controller.bindToClaim pv claim provisioner) = ofPersistentVolume pv := by
  have hclaim : (Controller.bindToClaim pv claim provisioner).metadata.annotation? deviceClaimKey =
      pv.metadata.annotation? deviceClaimKey := by
    have hne : Controller.provisionedByKey ≠ deviceClaimKey := by decide
    show ((pv.metadata.annotations.getD .empty).insert _ provisioner).get? deviceClaimKey = _
    rw [KeyMap.get?_insert_of_ne _ hne]
    unfold Metadata.annotation?
    cases pv.metadata.annotations <;> rfl
  unfold ofPersistentVolume
  rw [hclaim]
  obtain ⟨metadata, spec, status⟩ := pv
  cases spec <;> rfl

end VolumeRecord

/-- The persistent volumes for a volume: as it is written, and tied to a claim after that. -/
inductive LocalVolume.IsWrittenAs (v : LocalVolume) : PersistentVolume → Prop
  | plain : v.IsWrittenAs v.toPersistentVolume
  | tied (claim : PersistentVolumeClaim) (provisioner : String) :
      v.IsWrittenAs (Controller.bindToClaim v.toPersistentVolume claim provisioner)

theorem LocalVolume.IsWrittenAs.record_eq {v : LocalVolume} {pv : PersistentVolume}
    (h : v.IsWrittenAs pv) {record : VolumeRecord}
    (hrecord : VolumeRecord.ofPersistentVolume pv = .ok record) : record = v.record := by
  cases h with
  | plain => exact VolumeRecord.eq_record hrecord
  | tied claim provisioner =>
    rw [VolumeRecord.ofPersistentVolume_bindToClaim] at hrecord
    exact VolumeRecord.eq_record hrecord

end NodeVolumes
