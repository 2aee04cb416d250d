import NodeVolumes.Proofs.HostPath.Command

/-! # What the quota script is made of

The quota script is run by a shell with all rights, and the name of a directory and two limits are put into it. The
values are let in only when none of their characters means anything to the shell, and none of them can be taken for
part of a hole. So the script is the text of its templates with these values in the places that are meant for them.

* `HoleFree`: a text without holes. What is put together from such texts at blanks is one, too.
* `shellMarks`: the characters of a text that may mean something to the shell.
* `quota_script_is_filled_at_once`: the script for every directory and limits, and what is refused. -/

namespace NodeVolumes.HostPath

variable {dir token x y : String} {limits : QuotaLimits}

/-! ### Texts without holes -/

/-- A text in which no hole occurs. -/
def HoleFree (s : String) : Prop := ∀ hole ∈ holes, ¬hole.toList <:+: s.toList

instance (s : String) : Decidable (HoleFree s) := inferInstanceAs (Decidable (∀ _ ∈ _, _))

theorem holeFree_filledAtOnce {target soft hard : String} (t : QuotaTemplate) (htarget : SparesHoles target)
    (hsoft : SparesHoles soft) (hhard : SparesHoles hard) : HoleFree (t.filledAtOnce target soft hard) := by
  intro hole hhole
  obtain ⟨f, hf, heq⟩ : ∃ f ∈ fillings target soft hard, f.hole = hole.toList := by
    simp only [holes, List.mem_cons, List.not_mem_nil, or_false] at hhole
    rcases hhole with rfl | rfl | rfl <;> simp [fillings]
  suffices h : ∀ g ∈ fillings target soft hard,
      Text.IsHole '\x7b' g.hole ∧ Text.Spares '\x7b' f.hole g.value by
    unfold QuotaTemplate.filledAtOnce
    rw [String.toList_ofList, ← heq]
    exact Text.not_infix_fillAtOnce hf h
  intro g hg
  rw [heq]
  simp only [fillings, List.mem_cons, List.not_mem_nil, or_false] at hg
  rcases hg with rfl | rfl | rfl
  · exact ⟨isHole (by decide), htarget hole hhole⟩
  · exact ⟨isHole (by decide), hsoft hole hhole⟩
  · exact ⟨isHole (by decide), hhard hole hhole⟩

theorem holeFree_of_brace_not_mem (h : '\x7b' ∉ x.toList) : HoleFree x := by
  intro hole hhole hoccurs
  obtain ⟨name, hname, -⟩ := isHole hhole
  exact h (hoccurs.subset (hname ▸ List.mem_cons_self))

theorem HoleFree.append_blank_append (hx : HoleFree x) (hy : HoleFree y) : HoleFree (x ++ " " ++ y) := by
  intro hole hhole hinfix
  have hblank : ∀ hole ∈ holes, ' ' ∉ hole.toList := by decide
  rw [String.append_assoc, String.toList_append, String.toList_append] at hinfix
  rcases Text.infix_or_infix_of_append_cons (hblank hole hhole) hinfix with h | h
  · exact hx hole hhole h
  · exact hy hole hhole h

theorem holeFree_intercalate {l : List String} (h : ∀ s ∈ l, HoleFree s) : HoleFree (String.intercalate " " l) := by
  induction l with
  | nil => exact holeFree_of_brace_not_mem (by decide)
  | cons s l ih =>
    have hs : HoleFree s := h s List.mem_cons_self
    by_cases hl : l = []
    · rwa [hl, String.intercalate_singleton]
    · rw [String.intercalate_cons_of_ne_nil hl]
      exact hs.append_blank_append (ih fun t ht => h t (List.mem_cons_of_mem s ht))

/-! ### The shell -/

/-- The characters of a text that may mean something to the shell: all that paths are not made of. -/
def shellMarks (s : String) : List Char := s.toList.filter (!isPathChar ·)

theorem shellMarks_eq_nil_iff : shellMarks x = [] ↔ ∀ c ∈ x.toList, isPathChar c = true := by
  unfold shellMarks
  simp [List.filter_eq_nil_iff]

theorem shellMarks_append (x y : String) : shellMarks (x ++ y) = shellMarks x ++ shellMarks y := by
  unfold shellMarks
  rw [String.toList_append, List.filter_append]

theorem shellMarks_of_isSizeToken (h : isSizeToken token = true) :
    shellMarks token = [] ∧ shellMarks token.toUpper = [] := by
  obtain ⟨digits, hlower, hupper, -, hdigits⟩ := exists_digits_of_isSizeToken h
  have hnone : shellMarks digits = [] := by
    rw [shellMarks_eq_nil_iff]
    intro c hc
    simp [isPathChar, IsNameChar, Char.isAlphanum, hdigits c hc]
  rw [hupper, hlower, shellMarks_append, shellMarks_append, hnone]
  decide

theorem shellMarks_target (hdir : isSafeName dir = true) : shellMarks (dataMount ++ dir) = [] :=
  shellMarks_eq_nil_iff.2 fun _ => isPathChar_of_mem_target hdir

theorem shellMarks_filledAtOnce {target soft hard : String} (t : QuotaTemplate) (htarget : shellMarks target = [])
    (hsoft : shellMarks soft = []) (hhard : shellMarks hard = []) :
    shellMarks (t.filledAtOnce target soft hard) = shellMarks (t.filledAtOnce "" "" "") := by
  unfold shellMarks QuotaTemplate.filledAtOnce
  rw [String.toList_ofList, String.toList_ofList, Text.filter_fillAtOnce]
  · rfl
  · intro f hf
    simp only [fillings, List.mem_cons, List.not_mem_nil, or_false] at hf
    rcases hf with rfl | rfl | rfl
    · exact htarget
    · exact hsoft
    · exact hhard

/-! ### The script -/

/-- The script with the commands for both families of file systems, and the directory that it removes on any other
one. -/
def scriptOf (xfs ext target : String) : String :=
  String.intercalate " " ["FS=`stat -f -c %T /data` ; if [[ \"$FS\" == \"xfs\" ]]; then", xfs,
    "elif [[ \"$FS\" == \"ext2/ext3\" ]]; then", ext, "else rm -rf", target, "; exit 1; fi"]

theorem quotaScript_eq_scriptOf (target : String) (limits : QuotaLimits) : quotaScript target limits =
    scriptOf (xfsTemplate.fill target limits) (extTemplate.fill target limits) target := by
  have hhead : scriptHead = "FS=`stat -f -c %T /data` ; if [[ \"$FS\" == \"xfs\" ]]; then" ++ " " := by
    decide +kernel
  have hmiddle : scriptMiddle = " " ++ ("elif [[ \"$FS\" == \"ext2/ext3\" ]]; then" ++ " ") := by decide +kernel
  have helse : scriptElse = " " ++ ("else rm -rf" ++ " ") := by decide +kernel
  have htail : scriptTail = " " ++ "; exit 1; fi" := by decide +kernel
  rw [quotaScript_eq, hhead, hmiddle, helse, htail]
  unfold scriptOf
  generalize xfsTemplate.fill target limits = xfs
  generalize extTemplate.fill target limits = ext
  simp only [String.intercalate_cons_cons, String.intercalate_singleton, String.append_assoc, -String.reduceAppend]

theorem holeFree_scriptOf {xfs ext target : String} (hxfs : HoleFree xfs) (hext : HoleFree ext)
    (htarget : HoleFree target) : HoleFree (scriptOf xfs ext target) := by
  refine holeFree_intercalate fun s hs => ?_
  simp only [List.mem_cons, List.not_mem_nil, or_false] at hs
  rcases hs with rfl | rfl | rfl | rfl | rfl | rfl | rfl
  · exact holeFree_of_brace_not_mem (by decide)
  · exact hxfs
  · exact holeFree_of_brace_not_mem (by decide)
  · exact hext
  · exact holeFree_of_brace_not_mem (by decide)
  · exact htarget
  · exact holeFree_of_brace_not_mem (by decide)

theorem shellMarks_scriptOf {xfs ext target xfs' ext' target' : String} (hxfs : shellMarks xfs = shellMarks xfs')
    (hext : shellMarks ext = shellMarks ext') (htarget : shellMarks target = shellMarks target') :
    shellMarks (scriptOf xfs ext target) = shellMarks (scriptOf xfs' ext' target') := by
  unfold scriptOf
  simp only [String.intercalate_cons_cons, String.intercalate_singleton, shellMarks_append, hxfs, hext, htarget]

theorem quotaScript_eq_filledAtOnce (hdir : isSafeName dir = true) (hlimits : limits.isWellFormed = true) :
    quotaScript (dataMount ++ dir) limits =
      scriptOf (xfsTemplate.filledAtOnce (dataMount ++ dir) limits.soft limits.hard)
        (extTemplate.filledAtOnce (dataMount ++ dir) limits.soft.toUpper limits.hard.toUpper) (dataMount ++ dir) := by
  obtain ⟨hlower, hupper⟩ := sparesHoles_of_isSizeToken (Bool.and_eq_true_iff.1 hlimits).1
  rw [quotaScript_eq_scriptOf, fill_eq_filledAtOnce xfsTemplate (sparesHoles_target hdir) hlower,
    fill_eq_filledAtOnce extTemplate (sparesHoles_target hdir) hupper]
  rfl

theorem holeFree_quotaScript (hdir : isSafeName dir = true) (hlimits : limits.isWellFormed = true) :
    HoleFree (quotaScript (dataMount ++ dir) limits) := by
  obtain ⟨hsoft, hhard⟩ := Bool.and_eq_true_iff.1 hlimits
  obtain ⟨hsoftLower, hsoftUpper⟩ := sparesHoles_of_isSizeToken hsoft
  obtain ⟨hhardLower, hhardUpper⟩ := sparesHoles_of_isSizeToken hhard
  have htarget := sparesHoles_target hdir
  rw [quotaScript_eq_filledAtOnce hdir hlimits]
  exact holeFree_scriptOf (holeFree_filledAtOnce xfsTemplate htarget hsoftLower hhardLower)
    (holeFree_filledAtOnce extTemplate htarget hsoftUpper hhardUpper)
    (holeFree_of_brace_not_mem (brace_not_mem_target hdir))

theorem shellMarks_quotaScript (hdir : isSafeName dir = true) (hlimits : limits.isWellFormed = true) :
    shellMarks (quotaScript (dataMount ++ dir) limits) =
      shellMarks (scriptOf (xfsTemplate.filledAtOnce "" "" "") (extTemplate.filledAtOnce "" "" "") "") := by
  obtain ⟨hsoft, hhard⟩ := Bool.and_eq_true_iff.1 hlimits
  obtain ⟨hsoftLower, hsoftUpper⟩ := shellMarks_of_isSizeToken hsoft
  obtain ⟨hhardLower, hhardUpper⟩ := shellMarks_of_isSizeToken hhard
  have htarget := shellMarks_target hdir
  rw [quotaScript_eq_filledAtOnce hdir hlimits]
  exact shellMarks_scriptOf (shellMarks_filledAtOnce xfsTemplate htarget hsoftLower hhardLower)
    (shellMarks_filledAtOnce extTemplate htarget hsoftUpper hhardUpper) htarget

/-! ### Commands -/

/-- Tells the operations that a command can be made for: those with a mode of octal digits, or limits that are size
tokens. -/
def HelperOperation.isFit : HelperOperation → Bool
  | .init mode => HelperOperation.isMode mode
  | .quota limits => limits.isWellFormed
  | .cleanup => true

/-- A directory with other characters is refused, and so is an operation with a mode or limits that do not fit. -/
theorem exists_of_command_refused {op : HelperOperation} (h : ¬(isSafeName dir = true ∧ op.isFit = true)) :
    ∃ message, op.command dir = .error (.invalidHelperOptions message) := by
  unfold HelperOperation.command
  by_cases hdir : isSafeName dir = true
  · have hop : op.isFit = false := by simpa [hdir] using h
    rw [hdir]
    cases op with
    | init mode =>
      have hmode : HelperOperation.isMode mode = false := hop
      exact ⟨_, by simp only [hmode]; rfl⟩
    | quota limits =>
      have hlimits : limits.isWellFormed = false := hop
      exact ⟨_, by simp only [hlimits]; rfl⟩
    | cleanup => cases hop
  · exact ⟨_, if_pos (by simpa using hdir)⟩

/-- The quota script for a directory and limits is made of its templates with all holes filled at once: with the
directory under the mount, and the limits, which have their unit in upper case for the ext family. On any other file
system it removes that directory and fails. No hole is left, and no character that may mean something to the shell
comes from the values: the script has just those of the templates. Whatever else is asked for is refused, for any
operation, and no command is given. -/
theorem quota_script_is_filled_at_once :
    (∀ dir limits, isSafeName dir = true → limits.isWellFormed = true → ∃ soft hard script : String,
      limits = ⟨soft ++ "k", hard ++ "k"⟩ ∧
      (HelperOperation.quota limits).command dir = .ok ["sh", "-c", script] ∧
      script = scriptOf (xfsTemplate.filledAtOnce (dataMount ++ dir) (soft ++ "k") (hard ++ "k"))
        (extTemplate.filledAtOnce (dataMount ++ dir) (soft ++ "K") (hard ++ "K")) (dataMount ++ dir) ∧
      (∀ hole ∈ [dirHole, softHole, hardHole], ¬hole.toList <:+: script.toList) ∧
      (∀ value ∈ [dataMount ++ dir, soft ++ "k", hard ++ "k", soft ++ "K", hard ++ "K"],
        ∀ c ∈ value.toList, isPathChar c = true) ∧
      shellMarks script =
        shellMarks (scriptOf (xfsTemplate.filledAtOnce "" "" "") (extTemplate.filledAtOnce "" "" "") "")) ∧
    ∀ (op : HelperOperation) dir, ¬(isSafeName dir = true ∧ op.isFit = true) →
      ∃ message, op.command dir = .error (.invalidHelperOptions message) := by
  refine ⟨fun dir limits hdir hlimits => ?_, fun op dir => exists_of_command_refused⟩
  obtain ⟨hsoft, hhard⟩ := Bool.and_eq_true_iff.1 hlimits
  obtain ⟨soft, hsoftLower, hsoftUpper, -, -⟩ := exists_digits_of_isSizeToken hsoft
  obtain ⟨hard, hhardLower, hhardUpper, -, -⟩ := exists_digits_of_isSizeToken hhard
  refine ⟨soft, hard, quotaScript (dataMount ++ dir) limits, ?_, ?_, ?_, ?_, ?_, ?_⟩
  · rw [← hsoftLower, ← hhardLower]
  · exact command_quota_eq_ok_iff.2 ⟨hdir, hlimits, rfl⟩
  · rw [← hsoftUpper, ← hhardUpper, ← hsoftLower, ← hhardLower]
    exact quotaScript_eq_filledAtOnce hdir hlimits
  · exact holeFree_quotaScript hdir hlimits
  · intro value hvalue
    rw [← hsoftUpper, ← hhardUpper, ← hsoftLower, ← hhardLower] at hvalue
    simp only [List.mem_cons, List.not_mem_nil, or_false] at hvalue
    rw [← shellMarks_eq_nil_iff]
    rcases hvalue with rfl | rfl | rfl | rfl | rfl
    · exact shellMarks_target hdir
    · exact (shellMarks_of_isSizeToken hsoft).1
    · exact (shellMarks_of_isSizeToken hhard).1
    · exact (shellMarks_of_isSizeToken hsoft).2
    · exact (shellMarks_of_isSizeToken hhard).2
  · exact shellMarks_quotaScript hdir hlimits

/-- A script for two limits, and a name that would end the command and start another one. -/
theorem quota_script_is_filled_at_once_reboot :
    isSafeName "pvc-1" = true ∧ (QuotaLimits.mk "1954k" "2345k").isWellFormed = true ∧
    (∃ script, (HelperOperation.quota ⟨"1954k", "2345k"⟩).command "pvc-1" = .ok ["sh", "-c", script] ∧
      (¬dirHole.toList <:+: script.toList) ∧
      shellMarks script =
        shellMarks (scriptOf (xfsTemplate.filledAtOnce "" "" "") (extTemplate.filledAtOnce "" "" "") "")) ∧
    ¬(isSafeName "pvc-1; reboot" = true ∧ HelperOperation.cleanup.isFit = true) ∧
    ∃ message, HelperOperation.cleanup.command "pvc-1; reboot" = .error (.invalidHelperOptions message) := by
  obtain ⟨haccepted, hrefused⟩ := quota_script_is_filled_at_once
  have hdir : isSafeName "pvc-1" = true := by decide
  have hlimits : (QuotaLimits.mk "1954k" "2345k").isWellFormed = true := by decide
  have hunsafe : ¬(isSafeName "pvc-1; reboot" = true ∧ HelperOperation.cleanup.isFit = true) := by decide
  obtain ⟨-, -, script, -, hcommand, -, hholes, -, hmarks⟩ := haccepted "pvc-1" _ hdir hlimits
  exact ⟨hdir, hlimits, ⟨script, hcommand, hholes dirHole (by decide), hmarks⟩, hunsafe, hrefused _ _ hunsafe⟩

end NodeVolumes.HostPath
