import NodeVolumes.Proofs.HostPath.Command

/-! # Volume paths in normal form

A volume is made in the directory that one function writes down, and worked on in the directory that another one
reads from this text. They agree for every text: both take the paths that lead down, and see the steps only.

* `normalForm`: a path written with its steps alone.
* `Respells`: one more slash, one more `.`, or a slash at the end. This changes neither whether a path leads down
  nor where it leads (`Respells.leadsDown_iff`).
* `volume_paths_are_normal`: which texts are taken, and what is made of them. -/

namespace NodeVolumes.HostPath

/-- The normal form of a path: its steps, each behind one slash. -/
def normalForm (path : String) : String := ofSteps (steps path)

variable {path other parent leaf : String} {l above : List String}

/-! ### Spellings -/

/-- An upward segment is a step, so it can be told from the steps whether there is one. -/
theorem up_mem_pieces_iff : ".." ∈ pieces path ↔ ".." ∈ steps path := by
  unfold steps
  rw [List.mem_filter]
  simp

theorem leadsDown_congr (habsolute : path.toList.head? = some '/' ↔ other.toList.head? = some '/')
    (hsteps : steps path = steps other) : LeadsDown path l ↔ LeadsDown other l := by
  rw [leadsDown_iff, leadsDown_iff, checkedSteps_eq_ok_iff, checkedSteps_eq_ok_iff, up_mem_pieces_iff,
    up_mem_pieces_iff, habsolute, hsteps, checkDepth_eq_ok_iff, checkDepth_eq_ok_iff]

/-- The first path is the second one with one more slash or `.` between two segments, or a slash at its end. -/
inductive Respells : String → String → Prop
  | slash (above below : String) : Respells (above ++ "//" ++ below) (above ++ "/" ++ below)
  | dot (above below : String) : Respells (above ++ "/./" ++ below) (above ++ "/" ++ below)
  | trailing (path : String) : Respells (path ++ "/") path

theorem Respells.steps_eq (h : Respells path other) : steps path = steps other := by
  cases h with
  | slash above below =>
    have hpath : above ++ "//" ++ below = above ++ "/" ++ "" ++ "/" ++ below := by
      simp [String.append_assoc]
    rw [hpath, steps_append_slash, steps_append_slash, steps_append_slash]
    simp [show steps "" = [] by decide]
  | dot above below =>
    have hpath : above ++ "/./" ++ below = above ++ "/" ++ "." ++ "/" ++ below := by
      simp [String.append_assoc]
    rw [hpath, steps_append_slash, steps_append_slash, steps_append_slash]
    simp [show steps "." = [] by decide]
  | trailing =>
    have hpath : other ++ "/" = other ++ "/" ++ "" := by simp
    rw [hpath, steps_append_slash]
    simp [show steps "" = [] by decide]

/-- Paths that differ in spelling lead down by the same steps. -/
theorem Respells.leadsDown_iff (h : Respells path other) : LeadsDown path l ↔ LeadsDown other l := by
  have hsteps := h.steps_eq
  cases h with
  | slash above below =>
    refine leadsDown_congr ?_ hsteps
    simp
  | dot above below =>
    refine leadsDown_congr ?_ hsteps
    simp
  | trailing =>
    by_cases hempty : other = ""
    · -- a lone slash is absolute and the empty text is not, but neither leads anywhere
      subst hempty
      have hnone {path : String} (hpath : steps path = []) : ¬LeadsDown path l := by
        intro hdown
        exact hdown.ne_nil (hdown.steps_eq.symm.trans hpath)
      exact iff_of_false (hnone (by decide)) (hnone (by decide))
    · obtain ⟨c, cs, hchars⟩ := List.exists_cons_of_ne_nil (show other.toList ≠ [] by simpa using hempty)
      refine leadsDown_congr ?_ hsteps
      simp [hchars]

/-! ### Normal forms -/

theorem steps_normalForm (path : String) : steps (normalForm path) = steps path := by
  unfold normalForm
  by_cases hnone : steps path = []
  · rw [hnone]
    decide
  · refine steps_ofSteps hnone (fun s hs => ?_) fun s hs => ?_
    · exact slash_not_mem_of_mem_pieces (List.mem_filter.1 hs).1
    · simpa using (List.mem_filter.1 hs).2

theorem LeadsDown.normalForm_eq (h : LeadsDown path l) : normalForm path = ofSteps l :=
  congrArg ofSteps h.steps_eq

theorem LeadsDown.normal (h : LeadsDown path l) : LeadsDown (ofSteps l) l where
  absolute := by
    unfold ofSteps
    simp
  steps := by
    refine ⟨"" :: l, isCut_iff.2 (pieces_ofSteps h.ne_nil h.slash_not_mem).symm, ?_, ?_⟩
    · intro hup
      have hmem : ".." ∈ l := (List.mem_cons.1 hup).resolve_left (by decide)
      exact (h.isDownward _ hmem).2.2 rfl
    · rw [List.filter_cons_of_neg (by simp), List.filter_eq_self.2]
      intro s hs
      have hdown := h.isDownward s hs
      simp [hdown.1, hdown.2.1]
  deep := h.deep

theorem LeadsDown.ofSteps_ne_root (h : LeadsDown path (above ++ [leaf])) : ofSteps above ≠ "/" := by
  intro hroot
  have hsteps : HostPath.steps (ofSteps above) = above := by
    refine HostPath.steps_ofSteps h.above_ne_nil (fun s hs => h.slash_not_mem s (by simp [hs])) fun s hs => ?_
    have hdown := h.isDownward s (by simp [hs])
    exact ⟨hdown.1, hdown.2.1⟩
  rw [hroot] at hsteps
  exact h.above_ne_nil (hsteps.symm.trans (by decide))

theorem LeadsDown.isSafeName_iff (h : LeadsDown path (above ++ [leaf])) :
    isSafeName leaf = true ↔ ∀ c ∈ leaf.toList, IsNameChar c := by
  have hdown := h.isDownward leaf (by simp)
  rw [HostPath.isSafeName_iff]
  exact and_iff_right hdown.1

theorem splitForMount_eq_ok_iff_isNameChar : splitForMount path = .ok (parent, leaf) ↔
    ∃ above, LeadsDown path (above ++ [leaf]) ∧ (∀ c ∈ leaf.toList, IsNameChar c) ∧ parent = ofSteps above := by
  rw [splitForMount_eq_ok_iff]
  refine exists_congr fun above => and_congr_right fun hdown => ?_
  rw [hdown.isSafeName_iff]

theorem splitForMount_congr (h : ∀ l, LeadsDown other l ↔ LeadsDown path l) :
    splitForMount other = .ok (parent, leaf) ↔ splitForMount path = .ok (parent, leaf) := by
  rw [splitForMount_eq_ok_iff, splitForMount_eq_ok_iff]
  simp only [h]

theorem LeadsDown.congr (hpath : LeadsDown path l) (hother : LeadsDown other l) (m : List String) :
    LeadsDown other m ↔ LeadsDown path m := by
  constructor
  · intro h
    rwa [← h.steps_eq, hother.steps_eq]
  · intro h
    rwa [← h.steps_eq, hpath.steps_eq]

/-- What is made of the texts that become paths of volumes.

A base path and a volume have a path exactly when the text that joins them leads down, and this path is made of the
steps alone; a path that is made so is its own normal form. A path is cut in two exactly when it leads down as well
and its last step consists of letters, digits and the three marks of names. The directory above is not the root
then, and with the name below it is the normal form of the path. Paths that lead down by the same steps are cut
alike, as are a path and one that is the same but for a slash or a `.` too many. -/
theorem volume_paths_are_normal (base volume path parent leaf : String) :
    (buildPath base volume = .ok path ↔
      ∃ l, LeadsDown (base ++ "/" ++ volume) l ∧ path = "/" ++ String.intercalate "/" l) ∧
    (buildPath base volume = .ok path → normalForm path = path) ∧
    (splitForMount path = .ok (parent, leaf) ↔
      ∃ above, LeadsDown path (above ++ [leaf]) ∧ (∀ c ∈ leaf.toList, IsNameChar c) ∧
        parent = "/" ++ String.intercalate "/" above) ∧
    (splitForMount path = .ok (parent, leaf) → parent ≠ "/" ∧ parent ++ "/" ++ leaf = normalForm path) ∧
    ∀ other, (∃ l, LeadsDown path l ∧ LeadsDown other l) ∨ Respells other path →
      (splitForMount other = .ok (parent, leaf) ↔ splitForMount path = .ok (parent, leaf)) := by
  refine ⟨buildPath_eq_ok_iff, fun h => (buildPath_eq_ok h).symm, splitForMount_eq_ok_iff_isNameChar, ?_, ?_⟩
  · intro h
    obtain ⟨above, hdown, -, rfl⟩ := splitForMount_eq_ok_iff.1 h
    refine ⟨hdown.ofSteps_ne_root, ?_⟩
    rw [hdown.normalForm_eq, ofSteps_concat hdown.above_ne_nil]
  · rintro other (⟨l, hpath, hother⟩ | hspelled)
    · exact splitForMount_congr (hpath.congr hother)
    · exact splitForMount_congr fun l => hspelled.leadsDown_iff

/-- A volume is made below a base path that is spelled with a slash and a `.` too many. Its path is cut alike when
it is spelled in another way, and with a slash at its end. -/
theorem volume_paths_are_normal_respelled :
    buildPath "/a//b/." "c" = .ok "/a/b/c" ∧ normalForm "/a/b/c" = "/a/b/c" ∧
      "/a/b" ++ "/" ++ "c" = normalForm "/a/b/c" ∧ splitForMount "//a/./b//c" = .ok ("/a/b", "c") ∧
      splitForMount "/a/b/c/" = .ok ("/a/b", "c") := by
  obtain ⟨hbuilt, hnormal, hsplit, hparts, halike⟩ :=
    volume_paths_are_normal "/a//b/." "c" "/a/b/c" "/a/b" "c"
  have hjoined : LeadsDown ("/a//b/." ++ "/" ++ "c") ["a", "b", "c"] := leadsDown_iff.2 ⟨by decide, rfl⟩
  have hspelled : LeadsDown "//a/./b//c" ["a", "b", "c"] := leadsDown_iff.2 ⟨by decide, rfl⟩
  have hpath : buildPath "/a//b/." "c" = .ok "/a/b/c" := hbuilt.2 ⟨_, hjoined, by decide⟩
  have hcut : splitForMount "/a/b/c" = .ok ("/a/b", "c") :=
    hsplit.2 ⟨["a", "b"], hjoined.normal, (isSafeName_iff.1 (by decide)).2, by decide⟩
  exact ⟨hpath, hnormal hpath, (hparts hcut).2, (halike _ (.inl ⟨_, hjoined.normal, hspelled⟩)).2 hcut,
    (halike _ (.inr (.trailing "/a/b/c"))).2 hcut⟩

end NodeVolumes.HostPath
