import NodeVolumes.Config.Layer

/-! # Layers, read and merged

What a layer comes to when it is read, and what two layers come to when one is put over the other. Names may
be repeated inside a layer, as often as its author likes.

* `IsBroken`: the texts that hold no layer; `readLayer_of_isBroken` and `readLayer_of_not_isBroken` say that
  these are the texts that are refused.
* `find?_merge`: under a name, the last entry of the upper layer counts, and after it the first of the lower.
* `map_name_merge` and `nodup_map_name_merge`: the names of the lower layer come first, in their order, then the
  new ones, and no name comes twice that was not there twice.
* `findRev?_merge`: where the lower layer has a name twice, its last entry of the name counts.
* `lastNamed?`: the entry of a text that counts under a name. -/

namespace NodeVolumes

/-! ### Reading -/

/-- A text that holds no layer: it is not blank, and either it cannot be read or an entry has a blank name. -/
def IsBroken (raw : String) : Prop :=
  Text.trim raw ≠ "" ∧ ∀ entries, layerEntries? raw = some entries → ∃ e ∈ entries, Text.trim e.name = ""

/-- The entries of a text, with their names as they are written. Blank text has none. -/
def writtenEntries (raw : String) : List ConfigEntry :=
  if Text.trim raw = "" then [] else (layerEntries? raw).getD []

/-- The entry with its name trimmed. -/
def ConfigEntry.trimmed (e : ConfigEntry) : ConfigEntry := { e with name := Text.trim e.name }

theorem readLayer_eq (layer raw : String) : readLayer layer raw =
    if Text.trim raw = "" then .ok []
    else match layerEntries? raw with
      | none => .error (.invalidConfigLayer layer malformedLayer)
      | some entries =>
        if (entries.map ConfigEntry.trimmed).any (·.name = "") then
          .error (.invalidConfigLayer layer namelessEntry)
        else .ok (entries.map ConfigEntry.trimmed) := rfl

theorem any_trimmed_iff {entries : List ConfigEntry} :
    (entries.map ConfigEntry.trimmed).any (·.name = "") = true ↔ ∃ e ∈ entries, Text.trim e.name = "" := by
  rw [List.any_map, List.any_eq_true]
  simp only [Function.comp_apply, decide_eq_true_eq]
  rfl

/-- A broken text is refused, and the error names its layer. -/
theorem readLayer_of_isBroken {raw : String} (h : IsBroken raw) (layer : String) :
    ∃ reason, readLayer layer raw = .error (.invalidConfigLayer layer reason) := by
  obtain ⟨hblank, hentries⟩ := h
  rw [readLayer_eq, if_neg hblank]
  cases hread : layerEntries? raw with
  | none => exact ⟨malformedLayer, rfl⟩
  | some entries =>
    have hany := any_trimmed_iff.2 (hentries entries hread)
    exact ⟨namelessEntry, if_pos hany⟩

/-- A text that is not broken is read to its entries. -/
theorem readLayer_of_not_isBroken {raw : String} (h : ¬IsBroken raw) (layer : String) :
    readLayer layer raw = .ok ((writtenEntries raw).map ConfigEntry.trimmed) := by
  rw [readLayer_eq]
  unfold writtenEntries
  by_cases hblank : Text.trim raw = ""
  · rw [if_pos hblank, if_pos hblank]
    rfl
  · rw [if_neg hblank, if_neg hblank]
    cases hread : layerEntries? raw with
    | none => exact absurd ⟨hblank, fun entries hentries => by simp [hread] at hentries⟩ h
    | some entries =>
      refine if_neg fun hany => h ⟨hblank, fun entries' hentries => ?_⟩
      obtain rfl : entries = entries' := Option.some.inj (hread.symm.trans hentries)
      exact any_trimmed_iff.1 hany

theorem not_isBroken_of_isOk (layer : String) {raw : String} (h : (readLayer layer raw).isOk = true) :
    ¬IsBroken raw := by
  intro hbroken
  obtain ⟨reason, hread⟩ := readLayer_of_isBroken hbroken layer
  rw [hread] at h
  cases h

/-! ### Last entries -/

theorem findRev?_cons {α : Type} (p : α → Bool) (a : α) (l : List α) :
    (a :: l).findRev? p = (l.findRev? p).or (if p a then some a else none) := by
  rw [List.findRev?_eq_find?_reverse, List.findRev?_eq_find?_reverse, List.reverse_cons,
    List.find?_append, List.find?_singleton]

theorem findRev?_eq_find? {entries : List ConfigEntry} (h : (entries.map (·.name)).Nodup) (key : String) :
    entries.findRev? (·.name = key) = entries.find? (·.name = key) := by
  induction entries with
  | nil => rfl
  | cons e rest ih =>
    rw [List.map_cons, List.nodup_cons] at h
    rw [findRev?_cons, ih h.2, List.find?_cons]
    by_cases hkey : e.name = key
    · have hnone : rest.find? (·.name = key) = none := by
        refine List.find?_eq_none.2 fun e' he' => ?_
        have hne : e'.name ≠ e.name := fun heq => h.1 (heq ▸ List.mem_map_of_mem he')
        simpa [hkey] using hne
      simp [hkey, hnone]
    · simp [hkey]

/-- The last entry whose trimmed name is the given one, under this name. -/
def lastNamed? (key : String) (entries : List ConfigEntry) : Option ConfigEntry :=
  (entries.findRev? fun e => Text.trim e.name = key).map fun e => { e with name := key }

theorem findRev?_map_trimmed (key : String) (entries : List ConfigEntry) :
    (entries.map ConfigEntry.trimmed).findRev? (·.name = key) = lastNamed? key entries := by
  unfold lastNamed?
  rw [List.findRev?_eq_find?_reverse, List.findRev?_eq_find?_reverse, ← List.map_reverse, List.find?_map]
  refine Option.map_congr fun e he => ?_
  have hname : e.trimmed.name = key := by simpa using List.find?_some he
  exact congrArg (fun name => { e with name }) hname

/-! ### Merging -/

theorem find?_putEntry (entry : ConfigEntry) (entries : List ConfigEntry) (key : String) :
    (putEntry entry entries).find? (·.name = key) =
      if entry.name = key then some entry else entries.find? (·.name = key) := by
  induction entries with
  | nil => by_cases hkey : entry.name = key <;> simp [putEntry, hkey]
  | cons e rest ih =>
    unfold putEntry
    by_cases hname : e.name = entry.name
    · rw [if_pos hname, List.find?_cons, List.find?_cons, hname]
      by_cases hkey : entry.name = key <;> simp [hkey]
    · rw [if_neg hname, List.find?_cons, List.find?_cons, ih]
      by_cases hkey : e.name = key
      · have hne : entry.name ≠ key := fun h => hname (hkey.trans h.symm)
        simp [hkey, hne]
      · simp [hkey]

theorem map_name_putEntry (entry : ConfigEntry) (entries : List ConfigEntry) :
    (putEntry entry entries).map (·.name) =
      if entry.name ∈ entries.map (·.name) then entries.map (·.name)
      else entries.map (·.name) ++ [entry.name] := by
  induction entries with
  | nil => simp [putEntry]
  | cons e rest ih =>
    unfold putEntry
    by_cases hname : e.name = entry.name
    · simp [hname]
    · rw [if_neg hname, List.map_cons, ih]
      have hne : entry.name ≠ e.name := fun h => hname h.symm
      by_cases hmem : entry.name ∈ rest.map (·.name)
      · have hmem' : entry.name ∈ (e :: rest).map (·.name) := List.mem_cons_of_mem _ hmem
        rw [if_pos hmem, if_pos hmem', List.map_cons]
      · have hmem' : entry.name ∉ (e :: rest).map (·.name) := List.not_mem_cons_of_ne_of_not_mem hne hmem
        rw [if_neg hmem, if_neg hmem', List.map_cons, List.cons_append]

theorem merge_nil (lower : List ConfigEntry) : merge lower [] = lower := rfl

theorem merge_cons (lower : List ConfigEntry) (e : ConfigEntry) (upper : List ConfigEntry) :
    merge lower (e :: upper) = merge (putEntry e lower) upper := rfl

/-- Under a name, the last entry of the upper layer counts; without one, the first of the lower layer does. -/
theorem find?_merge (lower upper : List ConfigEntry) (key : String) :
    (merge lower upper).find? (·.name = key) =
      (upper.findRev? (·.name = key)).or (lower.find? (·.name = key)) := by
  induction upper generalizing lower with
  | nil => rfl
  | cons e upper ih =>
    rw [merge_cons, ih, find?_putEntry, findRev?_cons, Option.or_assoc]
    congr 1
    by_cases hkey : e.name = key <;> simp [hkey]

/-- The names of the lower layer stay in their order; those that only the upper layer has follow them, in the
order in which they come up first. -/
theorem map_name_merge (lower upper : List ConfigEntry) :
    (merge lower upper).map (·.name) = lower.map (·.name) ++
      ((upper.map (·.name)).filter fun name => name ∉ lower.map (·.name)).eraseDups := by
  induction upper generalizing lower with
  | nil => simp [merge_nil]
  | cons e upper ih =>
    rw [merge_cons, ih, map_name_putEntry, List.map_cons, List.filter_cons]
    by_cases hmem : e.name ∈ lower.map (·.name)
    · have hold : decide (e.name ∉ lower.map (·.name)) = false := by simpa using hmem
      rw [if_pos hmem, hold, if_neg Bool.false_ne_true]
    · have hnew : decide (e.name ∉ lower.map (·.name)) = true := decide_eq_true hmem
      rw [if_neg hmem, hnew, if_pos rfl, List.eraseDups_cons, List.filter_filter, List.append_assoc,
        List.singleton_append]
      -- a name is new to the longer list when it is new to the lower layer and is not the one just added
      congr 4
      funext name
      rw [Bool.beq_eq_decide_eq]
      simp [Bool.and_comm, not_or]

/-- No name comes twice when it did not come twice in the lower layer. -/
theorem nodup_map_name_merge {lower : List ConfigEntry} (h : (lower.map (·.name)).Nodup)
    (upper : List ConfigEntry) : ((merge lower upper).map (·.name)).Nodup := by
  induction upper generalizing lower with
  | nil => exact h
  | cons e upper ih =>
    refine ih ?_
    rw [map_name_putEntry]
    split
    case isTrue => exact h
    case isFalse hmem =>
      refine List.nodup_append.2 ⟨h, by simp, fun a ha b hb => ?_⟩
      rw [List.mem_singleton.1 hb]
      exact fun heq => hmem (heq ▸ ha)

/-! ### Names that come more than once -/

theorem filter_putEntry (entry : ConfigEntry) (entries : List ConfigEntry) (key : String) :
    (putEntry entry entries).filter (·.name = key) =
      if entry.name = key then entry :: (entries.filter (·.name = key)).tail
      else entries.filter (·.name = key) := by
  induction entries with
  | nil => by_cases hkey : entry.name = key <;> simp [putEntry, hkey]
  | cons e rest ih =>
    unfold putEntry
    by_cases hname : e.name = entry.name
    · rw [if_pos hname, List.filter_cons, List.filter_cons, hname]
      by_cases hkey : entry.name = key <;> simp [hkey]
    · rw [if_neg hname, List.filter_cons, List.filter_cons, ih]
      by_cases hkey : e.name = key
      · have hne : entry.name ≠ key := fun h => hname (hkey.trans h.symm)
        simp [hkey, hne]
      · simp [hkey]

/-- Of the entries of a name in the lower layer only the first can be replaced, by the last of the upper layer. -/
theorem filter_merge (lower upper : List ConfigEntry) (key : String) :
    (merge lower upper).filter (·.name = key) =
      match upper.findRev? (·.name = key) with
      | some e => e :: (lower.filter (·.name = key)).tail
      | none => lower.filter (·.name = key) := by
  induction upper generalizing lower with
  | nil => rfl
  | cons e upper ih =>
    rw [merge_cons, ih, filter_putEntry, findRev?_cons]
    -- what is put first stays in its place only if no later entry has the name
    by_cases hkey : e.name = key <;> cases upper.findRev? (·.name = key) <;> simp [hkey]

theorem two_le_countP_merge_iff {lower upper : List ConfigEntry} {key : String} :
    2 ≤ (merge lower upper).countP (·.name = key) ↔ 2 ≤ lower.countP (·.name = key) := by
  rw [List.countP_eq_length_filter, List.countP_eq_length_filter, filter_merge]
  cases upper.findRev? (·.name = key) with
  | none => rfl
  | some e =>
    rw [List.length_cons, List.length_tail]
    omega

theorem getLast?_cons_tail {α : Type} (a : α) (l : List α) :
    (a :: l.tail).getLast? = if 2 ≤ l.length then l.getLast? else some a := by
  match l with
  | [] => rfl
  | [_] => rfl
  | b :: c :: rest =>
    rw [List.tail_cons, List.getLast?_cons_cons, List.getLast?_cons_cons]
    exact (if_pos (Nat.le_add_left 2 rest.length)).symm

/-- Under a name, the last entry of the upper layer counts, unless the lower layer has the name more than once:
then its own last entry still does. -/
theorem findRev?_merge (lower upper : List ConfigEntry) (key : String) :
    (merge lower upper).findRev? (·.name = key) =
      if 2 ≤ lower.countP (·.name = key) then lower.findRev? (·.name = key)
      else (upper.findRev? (·.name = key)).or (lower.findRev? (·.name = key)) := by
  have hlast : ∀ entries : List ConfigEntry,
      entries.findRev? (·.name = key) = (entries.filter (·.name = key)).getLast? := fun entries => by
    rw [List.findRev?_eq_find?_reverse, List.getLast?_filter]
  rw [hlast (merge lower upper), hlast lower, filter_merge, List.countP_eq_length_filter]
  cases upper.findRev? (·.name = key) with
  | none => rw [Option.none_or, ite_self]
  | some e => exact getLast?_cons_tail e _

end NodeVolumes
