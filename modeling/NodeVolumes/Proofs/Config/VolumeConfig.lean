import NodeVolumes.Config.VolumeConfig
import NodeVolumes.Proofs.Config.Layer
import NodeVolumes.Proofs.Error

/-! # Precedence of layers

A configuration is merged from three layers, and then kept as a map. Inside a layer the last entry of a name
counts, between layers the one of the claim does before the one of the storage class, and that one before the
default. An entry is taken as it is; nothing of an entry below shows through.

* `get?_ofEntries`: in the map, the last entry of a name counts.
* `get?_ofEntries_merge`: under a name, the merged layers hold what the uppermost layer with the name says last.
* `layers_take_precedence`: what the text of the layers decides about the resolved configuration. -/

namespace NodeVolumes

namespace VolumeConfig

/-! ### Merged entries -/

theorem get?_foldl_insert_name (entries : List ConfigEntry) (m : KeyMap String ConfigEntry) (key : String) :
    (entries.foldl (fun m e => m.insert e.name e) m).get? key =
      (entries.findRev? (·.name = key)).or (m.get? key) := by
  induction entries generalizing m with
  | nil => rfl
  | cons e rest ih =>
    rw [List.foldl_cons, ih, KeyMap.get?_insert, findRev?_cons, Option.or_assoc]
    congr 1
    by_cases hkey : e.name = key <;> simp [hkey]

/-- Of several entries with one name the last is kept. -/
theorem get?_ofEntries (volume : String) (entries : List ConfigEntry) (key : String) :
    (ofEntries volume entries).entries.get? key = entries.findRev? (·.name = key) := by
  unfold ofEntries KeyMap.ofList
  rw [List.foldl_map, get?_foldl_insert_name, KeyMap.get?_empty, Option.or_none]

/-- Of three layers, the uppermost that has a name decides the entry under it, by its last one. -/
theorem get?_ofEntries_merge {defaults : List ConfigEntry} (h : (defaults.map (·.name)).Nodup)
    (volume : String) (fromClass fromClaim : List ConfigEntry) (key : String) :
    (ofEntries volume (merge (merge defaults fromClass) fromClaim)).entries.get? key =
      (fromClaim.findRev? (·.name = key)).or
        ((fromClass.findRev? (·.name = key)).or (defaults.find? (·.name = key))) := by
  have hnodup := nodup_map_name_merge (nodup_map_name_merge h fromClass) fromClaim
  rw [get?_ofEntries, findRev?_eq_find? hnodup, find?_merge, find?_merge]

/-! ### Resolving -/

variable {volume classLayer claimLayer : String} {defaults : List ConfigEntry}

theorem rejectDeprecated_eq (config : VolumeConfig) :
    (config.rejectDeprecated = .ok () ∧ ∀ d ∈ deprecatedKeys, config.value d.1 = "") ∨
      ∃ d ∈ deprecatedKeys, config.value d.1 ≠ "" ∧
        config.rejectDeprecated = .error (.deprecatedOption d.1 d.2) := by
  unfold rejectDeprecated
  cases hfound : deprecatedKeys.find? fun d => config.value d.1 ≠ "" with
  | none =>
    refine .inl ⟨rfl, fun d hd => ?_⟩
    simpa using List.find?_eq_none.1 hfound d hd
  | some d =>
    have hvalue : config.value d.1 ≠ "" := by simpa using List.find?_some hfound
    exact .inr ⟨d, List.mem_of_find?_eq_some hfound, hvalue, rfl⟩

theorem resolve_of_isBroken_class (h : IsBroken classLayer) :
    ∃ reason, resolve volume defaults classLayer claimLayer =
      .error (.invalidConfigLayer "storageclass" reason) := by
  obtain ⟨reason, hread⟩ := readLayer_of_isBroken h "storageclass"
  refine ⟨reason, ?_⟩
  unfold resolve
  exact except_bind_eq_error_iff.2 (.inl hread)

theorem resolve_of_isBroken_claim (hclass : ¬IsBroken classLayer) (h : IsBroken claimLayer) :
    ∃ reason, resolve volume defaults classLayer claimLayer =
      .error (.invalidConfigLayer "pvc" reason) := by
  obtain ⟨reason, hread⟩ := readLayer_of_isBroken h "pvc"
  refine ⟨reason, ?_⟩
  unfold resolve
  refine except_bind_eq_error_iff.2 (.inr ⟨_, readLayer_of_not_isBroken hclass _, ?_⟩)
  exact except_bind_eq_error_iff.2 (.inl hread)

/-- The configuration that layers are merged to. -/
def ofLayers (volume : String) (defaults : List ConfigEntry) (classLayer claimLayer : String) :
    VolumeConfig :=
  ofEntries volume (merge (merge defaults ((writtenEntries classLayer).map .trimmed))
    ((writtenEntries claimLayer).map .trimmed))

theorem resolve_of_rejectDeprecated_ok (hclass : ¬IsBroken classLayer) (hclaim : ¬IsBroken claimLayer)
    (h : (ofLayers volume defaults classLayer claimLayer).rejectDeprecated = .ok ()) :
    resolve volume defaults classLayer claimLayer =
      .ok (ofLayers volume defaults classLayer claimLayer) := by
  unfold resolve
  refine except_bind_eq_ok_iff.2 ⟨_, readLayer_of_not_isBroken hclass _, ?_⟩
  refine except_bind_eq_ok_iff.2 ⟨_, readLayer_of_not_isBroken hclaim _, ?_⟩
  exact except_bind_eq_ok_iff.2 ⟨(), h, rfl⟩

theorem resolve_of_rejectDeprecated_error (hclass : ¬IsBroken classLayer)
    (hclaim : ¬IsBroken claimLayer) {e : Error}
    (h : (ofLayers volume defaults classLayer claimLayer).rejectDeprecated = .error e) :
    resolve volume defaults classLayer claimLayer = .error e := by
  unfold resolve
  refine except_bind_eq_error_iff.2 (.inr ⟨_, readLayer_of_not_isBroken hclass _, ?_⟩)
  refine except_bind_eq_error_iff.2 (.inr ⟨_, readLayer_of_not_isBroken hclaim _, ?_⟩)
  exact except_bind_eq_error_iff.2 (.inl h)

theorem get?_ofLayers (h : (defaults.map (·.name)).Nodup) (key : String) :
    (ofLayers volume defaults classLayer claimLayer).entries.get? key =
      (lastNamed? key (writtenEntries claimLayer)).or
        ((lastNamed? key (writtenEntries classLayer)).or (defaults.find? (·.name = key))) := by
  unfold ofLayers
  rw [get?_ofEntries_merge h, findRev?_map_trimmed, findRev?_map_trimmed]

end VolumeConfig

/-- What the layers decide about the configuration of a volume.

A broken layer fails the whole call, the one of the storage class first. Otherwise the configuration holds under
every name the last entry of the claim that has this name when it is trimmed, or else the last such one of the
storage class, or else the default, each as it stands in its layer; and it is given unless it has a value for
a deprecated entry. To merge a layer over entries with different names keeps these in their order and adds new
names in the order in which they come up, each once. -/
theorem layers_take_precedence {defaults : List ConfigEntry} (hdefaults : (defaults.map (·.name)).Nodup)
    (volume classLayer claimLayer : String) :
    let resolved := VolumeConfig.resolve volume defaults classLayer claimLayer
    (IsBroken classLayer →
      ∃ reason, resolved = .error (.invalidConfigLayer "storageclass" reason)) ∧
    (¬IsBroken classLayer → IsBroken claimLayer →
      ∃ reason, resolved = .error (.invalidConfigLayer "pvc" reason)) ∧
    (¬IsBroken classLayer → ¬IsBroken claimLayer → ∃ config : VolumeConfig,
      config.volume = volume ∧
      (∀ key, config.entries.get? key =
        (lastNamed? key (writtenEntries claimLayer)).or
          ((lastNamed? key (writtenEntries classLayer)).or (defaults.find? (·.name = key)))) ∧
      ((resolved = .ok config ∧ ∀ d ∈ deprecatedKeys, config.value d.1 = "") ∨
        ∃ d ∈ deprecatedKeys, config.value d.1 ≠ "" ∧
          resolved = .error (.deprecatedOption d.1 d.2))) ∧
    ∀ lower upper : List ConfigEntry, (lower.map (·.name)).Nodup →
      (merge lower upper).map (·.name) = lower.map (·.name) ++
        ((upper.map (·.name)).filter fun name => name ∉ lower.map (·.name)).eraseDups ∧
      ((merge lower upper).map (·.name)).Nodup ∧
      ∀ key, (merge lower upper).find? (·.name = key) =
        (upper.findRev? (·.name = key)).or (lower.find? (·.name = key)) := by
  intro resolved
  refine ⟨VolumeConfig.resolve_of_isBroken_class, VolumeConfig.resolve_of_isBroken_claim, ?_, ?_⟩
  · intro hclass hclaim
    refine ⟨VolumeConfig.ofLayers volume defaults classLayer claimLayer, rfl,
      VolumeConfig.get?_ofLayers hdefaults, ?_⟩
    rcases VolumeConfig.rejectDeprecated_eq (.ofLayers volume defaults classLayer claimLayer) with
      ⟨haccepted, hvalues⟩ | ⟨d, hd, hvalue, hrefused⟩
    · exact .inl ⟨VolumeConfig.resolve_of_rejectDeprecated_ok hclass hclaim haccepted, hvalues⟩
    · exact .inr ⟨d, hd, hvalue,
        VolumeConfig.resolve_of_rejectDeprecated_error hclass hclaim hrefused⟩
  · intro lower upper hlower
    exact ⟨map_name_merge lower upper, nodup_map_name_merge hlower upper, find?_merge lower upper⟩

/-- The claim names one entry twice, once with a blank in front, and the class names it too. What counts is the
second one of the claim, without the value that the first one and the class give. -/
theorem layers_take_precedence_repeated :
    let defaults := Settings.defaultLayer {}
    let classLayer := "- name: BasePath\n  value: /a\n- name: FSType\n  value: xfs\n"
    let claimLayer := "- name: FSType\n  value: ext4\n- name: \" FSType\"\n  enabled: true\n"
    (defaults.map (·.name)).Nodup ∧ ¬IsBroken classLayer ∧ ¬IsBroken claimLayer ∧
      ∃ config, VolumeConfig.resolve "pvc-1" defaults classLayer claimLayer = .ok config ∧
        config.entries.get? fsTypeKey = some ⟨fsTypeKey, none, some "true", none, none⟩ ∧
        config.entries.get? basePathKey = some (.ofValue basePathKey "/a") := by
  intro defaults classLayer claimLayer
  have hdefaults : (defaults.map (·.name)).Nodup := by decide
  have hclass : ¬IsBroken classLayer := by
    intro hbroken
    obtain ⟨reason, hread⟩ := readLayer_of_isBroken hbroken "storageclass"
    have hok : (readLayer "storageclass" classLayer).isOk = true := by decide +kernel
    rw [hread] at hok
    cases hok
  have hclaim : ¬IsBroken claimLayer := by
    intro hbroken
    obtain ⟨reason, hread⟩ := readLayer_of_isBroken hbroken "pvc"
    have hok : (readLayer "pvc" claimLayer).isOk = true := by decide +kernel
    rw [hread] at hok
    cases hok
  refine ⟨hdefaults, hclass, hclaim, ?_⟩
  obtain ⟨-, -, hmerged, -⟩ := layers_take_precedence hdefaults "pvc-1" classLayer claimLayer
  obtain ⟨config, -, hentries, ⟨hresolved, -⟩ | ⟨d, -, -, hrefused⟩⟩ := hmerged hclass hclaim
  · refine ⟨config, hresolved, ?_, ?_⟩
    · rw [hentries]
      decide +kernel
    · rw [hentries]
      decide +kernel
  · have hok : (VolumeConfig.resolve "pvc-1" defaults classLayer claimLayer).isOk = true := by
      decide +kernel
    rw [hrefused] at hok
    cases hok

end NodeVolumes
