import NodeVolumes.Proofs.HostPath.NormalForm

/-! # Volumes below one base path

The name of a volume is joined to the base path as text, and the whole is read as a path. A name that is one step
becomes the last step of the volume's path, so volumes with different names lie side by side. Any other name is
read as a path, too: one that leads nowhere gives the base path itself, and one of several steps a directory
further down, maybe inside of another volume.

* `IsStep`: the names that are one step.
* `IsWithin`: a directory is another one, or lies below it.
* `isWithin_normalForm_iff`: this is so when the steps of the one continue those of the other.
* `volume_paths_are_apart`: where the path of a volume lies. -/

namespace NodeVolumes.HostPath

variable {base volume other path path' inner outer : String}

/-! ### Names -/

/-- A name is one step: it is neither empty nor `.`, and has no slash. -/
def IsStep (name : String) : Prop := name ≠ "" ∧ name ≠ "." ∧ '/' ∉ name.toList

instance (name : String) : Decidable (IsStep name) := inferInstanceAs (Decidable (_ ∧ _ ∧ _))

theorem steps_eq_singleton_iff {name : String} : steps name = [name] ↔ IsStep name := by
  constructor
  · intro h
    have hmem : name ∈ steps name := h ▸ List.mem_singleton_self name
    obtain ⟨hpiece, hproper⟩ := List.mem_filter.1 hmem
    simp only [ne_eq, Bool.and_eq_true, decide_eq_true_eq] at hproper
    exact ⟨hproper.1, hproper.2, slash_not_mem_of_mem_pieces hpiece⟩
  · rintro ⟨hempty, hdot, hslash⟩
    have hcut : IsCut name [name] := ⟨List.cons_ne_nil _ _, by simpa using hslash, String.intercalate_singleton⟩
    unfold steps
    rw [← isCut_iff.1 hcut, List.filter_singleton]
    simp [hempty, hdot]

/-! ### Directories within directories -/

/-- A directory lies within another one: it is that one, or below it. -/
def IsWithin (inner outer : String) : Prop := inner = outer ∨ ∃ rest, inner = outer ++ "/" ++ rest

theorem normalForm_eq_iff : normalForm inner = normalForm outer ↔ steps inner = steps outer := by
  constructor
  · intro h
    rw [← steps_normalForm inner, h, steps_normalForm]
  · exact congrArg ofSteps

/-- A directory lies within another one when its steps continue those of the other. -/
theorem isWithin_normalForm_iff (houter : steps outer ≠ []) :
    IsWithin (normalForm inner) (normalForm outer) ↔ steps outer <+: steps inner := by
  constructor
  · rintro (heq | ⟨rest, hrest⟩)
    · exact normalForm_eq_iff.1 heq ▸ List.prefix_rfl
    · refine ⟨steps rest, ?_⟩
      rw [← steps_normalForm inner, hrest, steps_append_slash, steps_normalForm]
  · rintro ⟨below, hbelow⟩
    unfold normalForm
    rw [← hbelow]
    by_cases hnone : below = []
    · exact .inl (by rw [hnone, List.append_nil])
    · exact .inr ⟨_, ofSteps_append houter hnone⟩

/-! ### Paths of volumes -/

/-- The path of a volume leads down the base path, and from there down the name of the volume. -/
theorem steps_of_buildPath (h : buildPath base volume = .ok path) :
    path = normalForm path ∧ steps path = steps base ++ steps volume ∧ 2 ≤ (steps path).length := by
  obtain ⟨l, hdown, rfl⟩ := buildPath_eq_ok_iff.1 h
  have hsteps : steps base ++ steps volume = l := by
    rw [← steps_append_slash]
    exact hdown.steps_eq
  rw [hdown.normal.normalForm_eq, hdown.steps_ofSteps, hsteps]
  exact ⟨rfl, rfl, hdown.deep⟩

theorem steps_ne_nil_of_buildPath (h : buildPath base volume = .ok path) : steps path ≠ [] := by
  obtain ⟨-, -, hdeep⟩ := steps_of_buildPath h
  exact List.length_pos_iff.1 (by omega)

theorem steps_eq_concat_iff (h : buildPath base volume = .ok path) :
    steps path = steps base ++ [volume] ↔ IsStep volume := by
  obtain ⟨-, hsteps, -⟩ := steps_of_buildPath h
  rw [hsteps, List.append_cancel_left_eq]
  exact steps_eq_singleton_iff

theorem isWithin_base_iff (h : buildPath base volume = .ok path) :
    IsWithin (normalForm base) path ↔ steps volume = [] := by
  obtain ⟨hnormal, hsteps, -⟩ := steps_of_buildPath h
  rw [hnormal, isWithin_normalForm_iff (steps_ne_nil_of_buildPath h), hsteps]
  constructor
  · intro hprefix
    have hlength := hprefix.length_le
    rw [List.length_append] at hlength
    exact List.length_eq_zero_iff.1 (by omega)
  · intro hnone
    simp only [hnone, List.append_nil, List.prefix_rfl]

theorem eq_iff_of_buildPath (h : buildPath base volume = .ok path) (h' : buildPath base other = .ok path') :
    path' = path ↔ steps other = steps volume := by
  obtain ⟨hnormal, hsteps, -⟩ := steps_of_buildPath h
  obtain ⟨hnormal', hsteps', -⟩ := steps_of_buildPath h'
  rw [hnormal, hnormal', normalForm_eq_iff, hsteps, hsteps', List.append_cancel_left_eq]

theorem isWithin_iff_of_buildPath (h : buildPath base volume = .ok path) (h' : buildPath base other = .ok path') :
    IsWithin path' path ↔ steps volume <+: steps other := by
  obtain ⟨hnormal, hsteps, -⟩ := steps_of_buildPath h
  obtain ⟨hnormal', hsteps', -⟩ := steps_of_buildPath h'
  rw [hnormal, hnormal', isWithin_normalForm_iff (steps_ne_nil_of_buildPath h), hsteps, hsteps',
    List.prefix_append_right_inj]

theorem eq_of_isWithin (h : buildPath base volume = .ok path) (h' : buildPath base other = .ok path')
    (hvolume : IsStep volume) (hother : IsStep other) (hwithin : IsWithin path' path) : other = volume := by
  have hprefix := (isWithin_iff_of_buildPath h h').1 hwithin
  rw [steps_eq_singleton_iff.2 hvolume, steps_eq_singleton_iff.2 hother] at hprefix
  have hsame := hprefix.eq_of_length rfl
  exact (List.singleton_inj.1 hsame).symm

/-- The path of a volume whose name is one step is written with this name behind the base path. -/
theorem eq_append_of_isStep (h : buildPath base volume = .ok path) (hvolume : IsStep volume) :
    path = normalForm base ++ "/" ++ volume := by
  obtain ⟨hnormal, -, hdeep⟩ := steps_of_buildPath h
  have hsteps := (steps_eq_concat_iff h).2 hvolume
  have hbase : steps base ≠ [] := by
    intro hnone
    rw [hsteps, hnone] at hdeep
    simp at hdeep
  rw [hnormal]
  unfold normalForm
  rw [hsteps, ofSteps_concat hbase]

/-- Where the path of a volume lies below its base path.

The steps of the path are those of the base path, and then those of the name. They end with the name itself, below
the base path, exactly when the name is one step. Volumes have the same path when their names have the same steps,
and one lies within the other when the steps of its name continue those of the other's name; the base path lies
within the path of a volume when the name has no steps. So volumes whose names are one step each are neither in the
same place nor one within the other, and none of them holds the base path. -/
theorem volume_paths_are_apart (h : buildPath base volume = .ok path) :
    steps path = steps base ++ steps volume ∧
    (steps path = steps base ++ [volume] ↔ IsStep volume) ∧
    (IsWithin (normalForm base) path ↔ steps volume = []) ∧
    (∀ other path', buildPath base other = .ok path' →
      (path' = path ↔ steps other = steps volume) ∧ (IsWithin path' path ↔ steps volume <+: steps other)) ∧
    (IsStep volume → path = normalForm base ++ "/" ++ volume ∧ ¬IsWithin (normalForm base) path ∧
      ∀ other path', IsStep other → other ≠ volume → buildPath base other = .ok path' →
        path' ≠ path ∧ ¬IsWithin path' path ∧ ¬IsWithin path path') := by
  obtain ⟨-, hsteps, -⟩ := steps_of_buildPath h
  refine ⟨hsteps, steps_eq_concat_iff h, isWithin_base_iff h, fun other path' h' => ?_, fun hvolume => ?_⟩
  · exact ⟨eq_iff_of_buildPath h h', isWithin_iff_of_buildPath h h'⟩
  · refine ⟨eq_append_of_isStep h hvolume, ?_, fun other path' hother hne h' => ⟨?_, ?_, ?_⟩⟩
    · rw [isWithin_base_iff h, steps_eq_singleton_iff.2 hvolume]
      exact List.cons_ne_nil volume []
    · intro hsame
      exact hne (eq_of_isWithin h h' hvolume hother (.inl hsame))
    · intro hwithin
      exact hne (eq_of_isWithin h h' hvolume hother hwithin)
    · intro hwithin
      exact hne (eq_of_isWithin h' h hother hvolume hwithin).symm

/-- The text of one name begins with that of the other, and still their volumes are apart. -/
theorem volume_paths_are_apart_longer :
    "/var/local/pvc-10" ≠ "/var/local/pvc-1" ∧ ¬IsWithin "/var/local/pvc-10" "/var/local/pvc-1" ∧
      ¬IsWithin "/var/local" "/var/local/pvc-1" := by
  have hbuilt : buildPath "/var//local/" "pvc-1" = .ok "/var/local/pvc-1" := by decide
  obtain ⟨-, -, -, -, hstep⟩ := volume_paths_are_apart hbuilt
  obtain ⟨-, hbase, hothers⟩ := hstep (by decide)
  have hnormal : normalForm "/var//local/" = "/var/local" := by decide
  obtain ⟨hne, hbelow, -⟩ := hothers "pvc-10" "/var/local/pvc-10" (by decide) (by decide) (by decide)
  exact ⟨hne, hbelow, hnormal ▸ hbase⟩

/-- Names that are not one step: with `.` the path is the base path, and has another name at its end; with a second
slash it is that of another name; and with a second step it lies within that of another name. -/
theorem not_volume_paths_are_apart :
    (¬∀ base volume path, buildPath base volume = .ok path → (steps path).getLast? = some volume) ∧
    (¬∀ base volume path, buildPath base volume = .ok path → ¬IsWithin (normalForm base) path) ∧
    (¬∀ base volume other path path', volume ≠ other → buildPath base volume = .ok path →
      buildPath base other = .ok path' → path' ≠ path) ∧
    ¬∀ base volume other path path', volume ≠ other → buildPath base volume = .ok path →
      buildPath base other = .ok path' → path' ≠ path → ¬IsWithin path' path := by
  have hdot : buildPath "/a/b" "." = .ok "/a/b" := by decide
  have hone : buildPath "/a/b" "c/d" = .ok "/a/b/c/d" := by decide
  have htwo : buildPath "/a/b" "c//d" = .ok "/a/b/c/d" := by decide
  have habove : buildPath "/a/b" "c" = .ok "/a/b/c" := by decide
  refine ⟨fun h => ?_, fun h => ?_, fun h => ?_, fun h => ?_⟩
  · exact absurd (h _ _ _ hdot) (by decide)
  · exact h _ _ _ hdot (.inl (by decide))
  · exact h _ _ _ _ _ (by decide) hone htwo rfl
  · exact h _ _ _ _ _ (by decide) habove hone (by decide) (.inr ⟨"d", by decide⟩)

end NodeVolumes.HostPath
