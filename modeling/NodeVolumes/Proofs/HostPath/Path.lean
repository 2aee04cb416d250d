import NodeVolumes.HostPath.Path
import NodeVolumes.Proofs.Error

/-! # Steps of volume paths

What the checks of a path promise about its steps.

* `isCut_iff`: the pieces of a path are the only texts without a slash that the path is joined from.
* `pieces_ofSteps`: the pieces of a path that is put together are its steps, behind an empty one.
* `steps_append_slash`: the steps of two joined texts are those of the first, then those of the second.
* `checkedSteps_eq_ok_iff`: a path passes when it is absolute and no piece of it leads upwards.
* `buildPath_eq_ok_iff` and `splitForMount_eq_ok_iff`: both take the paths that lead down (`LeadsDown`), the
  second one those whose last step is a safe name.
* `splitForMount_eq_ok`: a path is cut in front of its last step, which is a safe name, and the
  directory above it is never the root. -/

namespace NodeVolumes.HostPath

/-- A step leads one level down: it is neither empty nor `.` nor `..`. -/
def IsDownward (step : String) : Prop := step ≠ "" ∧ step ≠ "." ∧ step ≠ ".."

/-! ### Pieces and steps -/

theorem mem_and_not_sep_of_mem_splitOnP {α : Type} {p : α → Bool} {l piece : List α}
    (h : piece ∈ l.splitOnP p) : ∀ x ∈ piece, x ∈ l ∧ p x = false := by
  induction l generalizing piece with
  | nil => simp_all
  | cons a rest ih =>
    rw [List.splitOnP_cons_eq_if_modifyHead] at h
    obtain ⟨first, others, hsplit⟩ := List.exists_cons_of_ne_nil (List.splitOnP_ne_nil p rest)
    rw [hsplit] at h ih
    have hrest {other : List α} (hother : other ∈ first :: others) :
        ∀ x ∈ other, x ∈ a :: rest ∧ p x = false :=
      fun x hx => (ih hother x hx).imp_left (List.mem_cons_of_mem _)
    by_cases ha : p a = true
    · rcases (by simpa [ha] using h : piece = [] ∨ piece ∈ first :: others) with rfl | h
      · simp
      · exact hrest h
    · rcases (by simpa [ha] using h : piece = a :: first ∨ piece ∈ others) with rfl | h
      · intro x hx
        rcases List.mem_cons.1 hx with rfl | hx
        · exact ⟨List.mem_cons_self .., Bool.eq_false_iff.2 ha⟩
        · exact hrest (List.mem_cons_self ..) x hx
      · exact hrest (List.mem_cons_of_mem _ h)

theorem slash_not_mem_of_mem_pieces {path s : String} (h : s ∈ pieces path) : '/' ∉ s.toList := by
  obtain ⟨cs, hcs, rfl⟩ := List.mem_map.1 h
  rw [String.toList_ofList]
  rw [List.splitOn_eq_splitOnP] at hcs
  intro hslash
  simpa using (mem_and_not_sep_of_mem_splitOnP hcs _ hslash).2

/-- A cut of a path: texts without a slash that give the path when slashes are put between them. -/
structure IsCut (path : String) (segments : List String) : Prop where
  ne_nil : segments ≠ []
  slash_not_mem : ∀ s ∈ segments, '/' ∉ s.toList
  join_eq : String.intercalate "/" segments = path

/-- The pieces of a path are a cut of it, and there is no other one. -/
theorem isCut_iff {path : String} {segments : List String} :
    IsCut path segments ↔ segments = pieces path := by
  constructor
  · rintro ⟨hne, hslash, rfl⟩
    have hsplit : (['/'].intercalate (segments.map String.toList)).splitOn '/' = segments.map String.toList := by
      apply List.splitOn_intercalate
      · simpa using hslash
      · simpa using hne
    unfold pieces
    rw [String.toList_intercalate]
    simp [hsplit, Function.comp_def]
  · rintro rfl
    refine ⟨?_, fun s hs => slash_not_mem_of_mem_pieces hs, ?_⟩
    · simp [pieces]
    · apply String.toList_injective
      rw [String.toList_intercalate]
      simp [pieces, Function.comp_def]

/-- The pieces of a path that is put together from steps are the steps, behind an empty piece. -/
theorem pieces_ofSteps {l : List String} (hl : l ≠ []) (h : ∀ s ∈ l, '/' ∉ s.toList) :
    pieces (ofSteps l) = "" :: l := by
  refine (isCut_iff.1 ⟨List.cons_ne_nil _ _, ?_, ?_⟩).symm
  · simpa using h
  · rw [String.intercalate_cons_of_ne_nil hl, String.empty_append]
    rfl

theorem pieces_append_slash (above below : String) :
    pieces (above ++ "/" ++ below) = pieces above ++ pieces below := by
  have hchars : (above ++ "/" ++ below).toList = above.toList ++ '/' :: below.toList := by simp
  have hsplit := List.splitOnP_append_cons (p := (· == '/')) above.toList below.toList (beq_self_eq_true '/')
  unfold pieces
  simp only [hchars, List.splitOn_eq_splitOnP, hsplit, List.map_append]

/-- Joined by a slash, the steps of one text follow those of the other. -/
theorem steps_append_slash (above below : String) :
    steps (above ++ "/" ++ below) = steps above ++ steps below := by
  unfold steps
  rw [pieces_append_slash, List.filter_append]

/-! ### Checked paths -/

/-- A path passes when it is absolute and no piece of it leads upwards. -/
theorem checkedSteps_eq_ok_iff {path : String} {l : List String} :
    checkedSteps path = .ok l ↔
      path.toList.head? = some '/' ∧ ".." ∉ pieces path ∧ l = steps path := by
  unfold checkedSteps
  split
  · simp_all
  · split <;> simp_all [eq_comm]

theorem checkDepth_eq_ok_iff {path : String} {l : List String} :
    checkDepth path l = .ok () ↔ 2 ≤ l.length := by
  match l with
  | [] => simp [checkDepth]
  | [_] => simp [checkDepth]
  | _ :: _ :: _ => simp [checkDepth]

theorem isDownward_of_mem_steps {path s : String} (hup : ".." ∉ pieces path) (h : s ∈ steps path) :
    IsDownward s := by
  obtain ⟨hmem, hs⟩ := List.mem_filter.1 h
  refine ⟨?_, ?_, ?_⟩
  · rintro rfl
    simp at hs
  · rintro rfl
    simp at hs
  · rintro rfl
    exact hup hmem

/-- A path leads down by some steps, two or more: it is absolute, no segment of it leads upwards, and the steps
are its segments without the empty ones and `.`. -/
structure LeadsDown (path : String) (l : List String) : Prop where
  absolute : path.toList.head? = some '/'
  steps : ∃ segments, IsCut path segments ∧ ".." ∉ segments ∧ l = segments.filter fun s => s ≠ "" && s ≠ "."
  deep : 2 ≤ l.length

theorem leadsDown_iff {path : String} {l : List String} :
    LeadsDown path l ↔ checkedSteps path = .ok l ∧ checkDepth path l = .ok () := by
  rw [checkedSteps_eq_ok_iff, checkDepth_eq_ok_iff]
  constructor
  · rintro ⟨habsolute, ⟨segments, hcut, hup, hl⟩, hdeep⟩
    obtain rfl := isCut_iff.1 hcut
    exact ⟨⟨habsolute, hup, hl⟩, hdeep⟩
  · rintro ⟨⟨habsolute, hup, hl⟩, hdeep⟩
    exact ⟨habsolute, ⟨pieces path, isCut_iff.2 rfl, hup, hl⟩, hdeep⟩

namespace LeadsDown

variable {path : String} {l : List String}

theorem steps_eq (h : LeadsDown path l) : HostPath.steps path = l :=
  (checkedSteps_eq_ok_iff.1 (leadsDown_iff.1 h).1).2.2.symm

theorem isDownward (h : LeadsDown path l) : ∀ s ∈ l, IsDownward s := by
  obtain ⟨-, hup, rfl⟩ := checkedSteps_eq_ok_iff.1 (leadsDown_iff.1 h).1
  exact fun s hs => isDownward_of_mem_steps hup hs

theorem slash_not_mem (h : LeadsDown path l) : ∀ s ∈ l, '/' ∉ s.toList := by
  intro s hs
  rw [← h.steps_eq] at hs
  exact slash_not_mem_of_mem_pieces (List.mem_filter.1 hs).1

theorem ne_nil (h : LeadsDown path l) : l ≠ [] := by
  rintro rfl
  exact absurd h.deep (by simp)

theorem above_ne_nil {above : List String} {leaf : String} (h : LeadsDown path (above ++ [leaf])) :
    above ≠ [] := by
  rintro rfl
  exact absurd h.deep (by simp)

end LeadsDown

/-- The path of a volume is made from the steps of the joined text, which has to lead down. -/
theorem buildPath_eq_ok_iff {base volume path : String} :
    buildPath base volume = .ok path ↔ ∃ l, LeadsDown (base ++ "/" ++ volume) l ∧ path = ofSteps l := by
  unfold buildPath
  constructor
  · intro h
    obtain ⟨l, hsteps, h₁⟩ := except_bind_eq_ok_iff.1 h
    obtain ⟨_, hdepth, hpath⟩ := except_bind_eq_ok_iff.1 h₁
    cases hpath
    exact ⟨l, leadsDown_iff.2 ⟨hsteps, hdepth⟩, rfl⟩
  · rintro ⟨l, hdown, rfl⟩
    obtain ⟨hsteps, hdepth⟩ := leadsDown_iff.1 hdown
    exact except_bind_eq_ok_iff.2 ⟨l, hsteps, except_bind_eq_ok_iff.2 ⟨(), hdepth, rfl⟩⟩

/-- A path that leads down is cut in front of its last step, which has to be a safe name. -/
theorem splitForMount_eq_ok_iff {path parent leaf : String} :
    splitForMount path = .ok (parent, leaf) ↔
      ∃ above, LeadsDown path (above ++ [leaf]) ∧ isSafeName leaf = true ∧ parent = ofSteps above := by
  unfold splitForMount
  constructor
  · intro h
    obtain ⟨l, hsteps, h₁⟩ := except_bind_eq_ok_iff.1 h
    obtain ⟨_, hdepth, h₂⟩ := except_bind_eq_ok_iff.1 h₁
    have hdown : LeadsDown path l := leadsDown_iff.2 ⟨hsteps, hdepth⟩
    obtain ⟨above, last, rfl⟩ := (List.eq_nil_or_concat l).resolve_left hdown.ne_nil
    rw [List.concat_eq_append] at hdown h₂
    simp only [List.getLast?_concat, List.dropLast_concat] at h₂
    by_cases hsafe : isSafeName last = true
    · rw [if_pos hsafe] at h₂
      cases h₂
      exact ⟨above, hdown, hsafe, rfl⟩
    · rw [if_neg hsafe] at h₂
      cases h₂
  · rintro ⟨above, hdown, hsafe, rfl⟩
    obtain ⟨hsteps, hdepth⟩ := leadsDown_iff.1 hdown
    refine except_bind_eq_ok_iff.2 ⟨_, hsteps, except_bind_eq_ok_iff.2 ⟨(), hdepth, ?_⟩⟩
    simp only [List.getLast?_concat, List.dropLast_concat]
    exact if_pos hsafe

/-- A path is cut in front of its last step, which is a safe name, below at least one other step. -/
theorem splitForMount_eq_ok {path parent leaf : String} (h : splitForMount path = .ok (parent, leaf)) :
    ∃ above, above ≠ [] ∧ steps path = above ++ [leaf] ∧ parent = ofSteps above ∧
      (∀ s ∈ steps path, IsDownward s) ∧ isSafeName leaf = true := by
  obtain ⟨above, hdown, hsafe, rfl⟩ := splitForMount_eq_ok_iff.1 h
  have hsteps := hdown.steps_eq
  exact ⟨above, hdown.above_ne_nil, hsteps, rfl, hsteps ▸ hdown.isDownward, hsafe⟩

/-! ### Normal paths -/

theorem steps_ofSteps {l : List String} (hl : l ≠ []) (hslash : ∀ s ∈ l, '/' ∉ s.toList)
    (hdown : ∀ s ∈ l, s ≠ "" ∧ s ≠ ".") : steps (ofSteps l) = l := by
  unfold steps
  rw [pieces_ofSteps hl hslash, List.filter_cons_of_neg (by simp), List.filter_eq_self]
  intro s hs
  simpa using hdown s hs

theorem ofSteps_append {above below : List String} (habove : above ≠ []) (hbelow : below ≠ []) :
    ofSteps (above ++ below) = ofSteps above ++ "/" ++ String.intercalate "/" below := by
  unfold ofSteps
  rw [String.intercalate_append_of_ne_nil habove hbelow]
  simp only [String.append_assoc]

theorem ofSteps_concat {above : List String} (habove : above ≠ []) (leaf : String) :
    ofSteps (above ++ [leaf]) = ofSteps above ++ "/" ++ leaf := by
  rw [ofSteps_append habove (List.cons_ne_nil leaf []), String.intercalate_singleton]

theorem LeadsDown.steps_ofSteps {path : String} {l : List String} (h : LeadsDown path l) :
    HostPath.steps (ofSteps l) = l :=
  HostPath.steps_ofSteps h.ne_nil h.slash_not_mem fun s hs => ⟨(h.isDownward s hs).1, (h.isDownward s hs).2.1⟩

/-- A path that is built for a volume is in normal form: it is put together from its steps. -/
theorem buildPath_eq_ok {base volume path : String} (h : buildPath base volume = .ok path) :
    path = ofSteps (steps path) := by
  obtain ⟨l, hdown, rfl⟩ := buildPath_eq_ok_iff.1 h
  rw [hdown.steps_ofSteps]

theorem eq_append_of_splitForMount {path parent leaf : String} (hnormal : path = ofSteps (steps path))
    (h : splitForMount path = .ok (parent, leaf)) : path = parent ++ "/" ++ leaf := by
  obtain ⟨above, habove, hsteps, rfl, -, -⟩ := splitForMount_eq_ok h
  rw [hsteps, ofSteps_concat habove] at hnormal
  exact hnormal

end NodeVolumes.HostPath
