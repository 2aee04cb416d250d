import NodeVolumes.Proofs.Config.VolumeConfig

/-! # Deprecated options

Two options were replaced by others, and a configuration that uses one of the old ones is refused. What is looked
at is the value of the one entry that counts under the name of the option when all layers are merged. An entry that
another one replaces is not seen, and neither is one that has a list, data or a switch but no value.

* `inForce?`: the entry that counts under a name, for any layers.
* `UsesOption`: the entry in force under a name has a value.
* `deprecated_value_is_refused`: a call is refused for a deprecated option exactly if the layers use it and no
  deprecated option before it, and is served exactly if they use none. -/

namespace NodeVolumes

/-! ### Entries in force -/

/-- The entry that counts under a name. It is the last one of the claim, or else the last one of the class, or else
the default; a default that comes more than once is never replaced. -/
def inForce? (defaults : List ConfigEntry) (classLayer claimLayer key : String) : Option ConfigEntry :=
  if 2 ≤ defaults.countP (·.name = key) then defaults.findRev? (·.name = key)
  else (lastNamed? key (writtenEntries claimLayer)).or
    ((lastNamed? key (writtenEntries classLayer)).or (defaults.findRev? (·.name = key)))

/-- Layers use an option when the entry in force under its name has a value that is not blank. -/
def UsesOption (defaults : List ConfigEntry) (classLayer claimLayer key : String) : Prop :=
  ∃ e v, inForce? defaults classLayer claimLayer key = some e ∧ e.value = some v ∧ Text.trim v ≠ ""

/-- A text names an option when one of its entries has that name after it is trimmed. -/
def NamesOption (raw key : String) : Prop :=
  ∃ e ∈ writtenEntries raw, Text.trim e.name = key

instance (raw key : String) : Decidable (NamesOption raw key) :=
  inferInstanceAs (Decidable (∃ e ∈ writtenEntries raw, Text.trim e.name = key))

/-- Every entry of a text with a name has a value that is not blank. -/
def ValuesOption (raw key : String) : Prop :=
  ∀ e ∈ writtenEntries raw, Text.trim e.name = key → ∃ v, e.value = some v ∧ Text.trim v ≠ ""

/-- The option is the first of the deprecated ones to which something applies. -/
def IsFirstDeprecated (applies : String → Prop) (key replacement : String) : Prop :=
  ∃ before after, deprecatedKeys = before ++ (key, replacement) :: after ∧ applies key ∧
    ∀ d ∈ before, ¬applies d.1

theorem lastNamed?_writtenEntries (raw key : String) :
    (¬NamesOption raw key ∧ lastNamed? key (writtenEntries raw) = none) ∨
      ∃ e ∈ writtenEntries raw, Text.trim e.name = key ∧
        lastNamed? key (writtenEntries raw) = some { e with name := key } := by
  unfold lastNamed?
  rw [List.findRev?_eq_find?_reverse]
  cases hfound : (writtenEntries raw).reverse.find? fun e => Text.trim e.name = key with
  | none =>
    refine .inl ⟨fun ⟨e, he, hname⟩ => ?_, rfl⟩
    have hother := List.find?_eq_none.1 hfound e (List.mem_reverse.2 he)
    exact absurd hname (by simpa using hother)
  | some e =>
    have he : e ∈ writtenEntries raw := List.mem_reverse.1 (List.mem_of_find?_eq_some hfound)
    exact .inr ⟨e, he, by simpa using List.find?_some hfound, rfl⟩

theorem usesOption_of_valuesOption {defaults : List ConfigEntry} {classLayer claimLayer key : String}
    (hdefaults : defaults.countP (·.name = key) ≤ 1)
    (hnames : NamesOption classLayer key ∨ NamesOption claimLayer key)
    (hclass : ValuesOption classLayer key) (hclaim : ValuesOption claimLayer key) :
    UsesOption defaults classLayer claimLayer key := by
  unfold UsesOption inForce?
  rw [if_neg (by omega)]
  -- the class has a say only if the claim does not name the option
  rcases lastNamed?_writtenEntries claimLayer key with ⟨hnone, hlast⟩ | ⟨e, he, hname, hlast⟩
  · rcases lastNamed?_writtenEntries classLayer key with ⟨hnone', -⟩ | ⟨e, he, hname, hlast'⟩
    · exact (hnames.elim hnone' hnone).elim
    · obtain ⟨v, hv, hblank⟩ := hclass e he hname
      exact ⟨{ e with name := key }, v, by rw [hlast, hlast', Option.none_or, Option.some_or], hv, hblank⟩
  · obtain ⟨v, hv, hblank⟩ := hclaim e he hname
    exact ⟨{ e with name := key }, v, by rw [hlast, Option.some_or], hv, hblank⟩

namespace VolumeConfig

variable {classLayer claimLayer : String} {defaults : List ConfigEntry}

/-- The merged layers hold under a name the entry in force, also where the defaults repeat the name. -/
theorem get?_ofLayers_eq_inForce? (volume key : String) :
    (ofLayers volume defaults classLayer claimLayer).entries.get? key =
      inForce? defaults classLayer claimLayer key := by
  unfold ofLayers inForce?
  rw [get?_ofEntries, findRev?_merge, findRev?_merge, findRev?_map_trimmed, findRev?_map_trimmed]
  by_cases htwo : 2 ≤ defaults.countP (·.name = key)
  · rw [if_pos (two_le_countP_merge_iff.2 htwo), if_pos htwo, if_pos htwo]
  · rw [if_neg (mt two_le_countP_merge_iff.1 htwo), if_neg htwo, if_neg htwo]

theorem value_ne_empty_iff {config : VolumeConfig} {key : String} :
    config.value key ≠ "" ↔
      ∃ e v, config.entries.get? key = some e ∧ e.value = some v ∧ Text.trim v ≠ "" := by
  unfold value
  cases hentry : config.entries.get? key with
  | none => simp
  | some e =>
    cases hvalue : e.value with
    | none => simp [hvalue]
    | some v => simp [hvalue]

theorem usesOption_iff (volume key : String) :
    UsesOption defaults classLayer claimLayer key ↔
      (ofLayers volume defaults classLayer claimLayer).value key ≠ "" := by
  rw [value_ne_empty_iff, get?_ofLayers_eq_inForce?]
  rfl

/-! ### Refusals -/

theorem rejectDeprecated_eq_error_iff {config : VolumeConfig} {key replacement : String} :
    config.rejectDeprecated = .error (.deprecatedOption key replacement) ↔
      IsFirstDeprecated (config.value · ≠ "") key replacement := by
  have hfound : config.rejectDeprecated = .error (.deprecatedOption key replacement) ↔
      deprecatedKeys.find? (fun d => config.value d.1 ≠ "") = some (key, replacement) := by
    unfold rejectDeprecated
    cases deprecatedKeys.find? (fun d => config.value d.1 ≠ "") with
    | none => simp
    | some d => simp [Prod.ext_iff]
  rw [hfound, List.find?_eq_some_iff_append]
  unfold IsFirstDeprecated
  constructor
  · rintro ⟨hvalue, before, after, hkeys, hbefore⟩
    exact ⟨before, after, hkeys, by simpa using hvalue, fun d hd => by simpa using hbefore d hd⟩
  · rintro ⟨before, after, hkeys, hvalue, hbefore⟩
    exact ⟨by simpa using hvalue, before, after, hkeys, fun d hd => by simpa using hbefore d hd⟩

theorem rejectDeprecated_eq_ok_iff {config : VolumeConfig} :
    config.rejectDeprecated = .ok () ↔ ∀ d ∈ deprecatedKeys, ¬config.value d.1 ≠ "" := by
  simp only [ne_eq, Decidable.not_not]
  constructor
  · intro haccepted
    rcases rejectDeprecated_eq config with ⟨-, hvalues⟩ | ⟨d, -, -, hrefused⟩
    · exact hvalues
    · cases haccepted.symm.trans hrefused
  · intro hvalues
    rcases rejectDeprecated_eq config with ⟨haccepted, -⟩ | ⟨d, hd, hvalue, -⟩
    · exact haccepted
    · exact absurd (hvalues d hd) hvalue

theorem resolve_eq_ok_iff (hclass : ¬IsBroken classLayer) (hclaim : ¬IsBroken claimLayer) (volume : String) :
    (∃ config, resolve volume defaults classLayer claimLayer = .ok config) ↔
      (ofLayers volume defaults classLayer claimLayer).rejectDeprecated = .ok () := by
  cases hchecked : (ofLayers volume defaults classLayer claimLayer).rejectDeprecated with
  | ok => simp [resolve_of_rejectDeprecated_ok hclass hclaim hchecked]
  | error e => simp [resolve_of_rejectDeprecated_error hclass hclaim hchecked]

theorem resolve_eq_error_iff (hclass : ¬IsBroken classLayer) (hclaim : ¬IsBroken claimLayer) (volume : String)
    {e : Error} : resolve volume defaults classLayer claimLayer = .error e ↔
      (ofLayers volume defaults classLayer claimLayer).rejectDeprecated = .error e := by
  cases hchecked : (ofLayers volume defaults classLayer claimLayer).rejectDeprecated with
  | ok => simp [resolve_of_rejectDeprecated_ok hclass hclaim hchecked]
  | error e => simp [resolve_of_rejectDeprecated_error hclass hclaim hchecked]

end VolumeConfig

/-- Which deprecated options are refused.

Layers that are not broken are refused for a deprecated option, and told what to use in its place, exactly if they
use this option and none that stands before it in the list of deprecated options. They give a configuration
exactly if they use none. Of an option that the claim names only the last entry there decides, whatever the class
says of it; of the others the last one in the class does, and an entry without a value passes. So a deprecated option
that a layer names and that comes with a value wherever it is named is never passed over. -/
theorem deprecated_value_is_refused (volume : String) (defaults : List ConfigEntry)
    {classLayer claimLayer : String} (hclass : ¬IsBroken classLayer) (hclaim : ¬IsBroken claimLayer) :
    let resolved := VolumeConfig.resolve volume defaults classLayer claimLayer
    (∀ key replacement, resolved = .error (.deprecatedOption key replacement) ↔
      IsFirstDeprecated (UsesOption defaults classLayer claimLayer) key replacement) ∧
    ((∃ config, resolved = .ok config) ↔
      ∀ d ∈ deprecatedKeys, ¬UsesOption defaults classLayer claimLayer d.1) ∧
    ∀ d ∈ deprecatedKeys, defaults.countP (·.name = d.1) ≤ 1 →
      NamesOption classLayer d.1 ∨ NamesOption claimLayer d.1 →
        ValuesOption classLayer d.1 → ValuesOption claimLayer d.1 →
          ∃ d' ∈ deprecatedKeys, resolved = .error (.deprecatedOption d'.1 d'.2) := by
  intro resolved
  have huses : UsesOption defaults classLayer claimLayer =
      ((VolumeConfig.ofLayers volume defaults classLayer claimLayer).value · ≠ "") :=
    funext fun key => propext (VolumeConfig.usesOption_iff volume key)
  refine ⟨fun key replacement => ?_, ?_, fun d hd hdefaults hnames hclassValues hclaimValues => ?_⟩
  · rw [huses, ← VolumeConfig.rejectDeprecated_eq_error_iff]
    exact VolumeConfig.resolve_eq_error_iff hclass hclaim volume
  · rw [huses, ← VolumeConfig.rejectDeprecated_eq_ok_iff]
    exact VolumeConfig.resolve_eq_ok_iff hclass hclaim volume
  · have hused := usesOption_of_valuesOption hdefaults hnames hclassValues hclaimValues
    rw [huses] at hused
    rcases VolumeConfig.rejectDeprecated_eq (.ofLayers volume defaults classLayer claimLayer) with
      ⟨-, hvalues⟩ | ⟨d', hd', -, hrefused⟩
    · exact absurd (hvalues d hd) hused
    · exact ⟨d', hd', VolumeConfig.resolve_of_rejectDeprecated_error hclass hclaim hrefused⟩

/-- The class names both deprecated options, the first one with a blank before its name. The claim replaces the value
of the second one by a list, and so only the first one is used and refused. -/
theorem deprecated_value_is_refused_first :
    let classLayer := "- name: NodeAffinityLabel\n  value: zone\n- name: \" BlockDeviceTag\"\n  value: fast\n"
    let claimLayer := "- name: NodeAffinityLabel\n  list:\n    - zone\n"
    ¬IsBroken classLayer ∧ ¬IsBroken claimLayer ∧
      VolumeConfig.resolve "pvc-1" (Settings.defaultLayer {}) classLayer claimLayer =
        .error (.deprecatedOption "BlockDeviceTag" deviceSelectorsKey) := by
  intro classLayer claimLayer
  have hclass : ¬IsBroken classLayer := not_isBroken_of_isOk "storageclass" (by decide +kernel)
  have hclaim : ¬IsBroken claimLayer := not_isBroken_of_isOk "pvc" (by decide +kernel)
  refine ⟨hclass, hclaim, ?_⟩
  obtain ⟨hrefused, -⟩ := deprecated_value_is_refused "pvc-1" (Settings.defaultLayer {}) hclass hclaim
  refine (hrefused _ _).2 ⟨[], _, rfl, ?_, fun d hd => absurd hd List.not_mem_nil⟩
  exact ⟨.ofValue "BlockDeviceTag" "fast", "fast", by decide +kernel, rfl, by decide +kernel⟩

/-- A deprecated option passes without an error where a layer gives it a list in the place of a value. -/
theorem not_deprecated_name_is_refused :
    ¬∀ (volume : String) (defaults : List ConfigEntry) (classLayer claimLayer key : String),
      ¬IsBroken classLayer → ¬IsBroken claimLayer → key ∈ deprecatedKeys.map (·.1) →
        NamesOption classLayer key ∨ NamesOption claimLayer key →
          ∃ key replacement, VolumeConfig.resolve volume defaults classLayer claimLayer =
            .error (.deprecatedOption key replacement) := by
  intro hall
  let classLayer := "- name: BlockDeviceTag\n  list:\n    - fast\n"
  have hclass : ¬IsBroken classLayer := not_isBroken_of_isOk "storageclass" (by decide +kernel)
  have hclaim : ¬IsBroken "" := not_isBroken_of_isOk "pvc" (by decide +kernel)
  have hnames : NamesOption classLayer "BlockDeviceTag" := by decide +kernel
  obtain ⟨key, replacement, hrefused⟩ := hall "pvc-1" (Settings.defaultLayer {}) classLayer "" "BlockDeviceTag"
    hclass hclaim (by decide) (.inl hnames)
  have hok : (VolumeConfig.resolve "pvc-1" (Settings.defaultLayer {}) classLayer "").isOk = true := by
    decide +kernel
  rw [hrefused] at hok
  cases hok

end NodeVolumes
