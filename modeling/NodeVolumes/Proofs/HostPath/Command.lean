import Mathlib.Data.List.Basic
import NodeVolumes.Proofs.HostPath.Path
import NodeVolumes.Proofs.HostPath.QuotaScript
import NodeVolumes.Proofs.HostPath.SizeToken

/-! # Directories in helper commands

A command works on the directories that stand in it as absolute paths. However the operation, they are all
the one directory that the command was made for, if the mount itself is left aside.

* `namedDirs`: the absolute paths that a command names, without the mount.
* `namedDirs_command`: a command names its directory as often as it works on it, and no other one. -/

namespace NodeVolumes.HostPath

/-! ### Words -/

/-- The characters of safe names. -/
def IsNameChar (c : Char) : Prop := c.isAlphanum = true ∨ c = '-' ∨ c = '_' ∨ c = '.'

instance (c : Char) : Decidable (IsNameChar c) :=
  inferInstanceAs (Decidable (_ ∨ _ ∨ _ ∨ _))

/-- The characters that paths are made of, among which any other one ends a word. -/
def isPathChar (c : Char) : Bool := c = '/' || IsNameChar c

/-- The longest parts of a text that may be paths. -/
def words (s : String) : List String := (s.toList.splitOnP (!isPathChar ·)).map String.ofList

/-- The data mount without the slash at its end. -/
def mountDir : String := "/data"

/-- Tells whether a word is an absolute path other than the mount. -/
def isDir (cs : List Char) : Bool := cs.head? = some '/' && cs ≠ mountDir.toList

/-- The directories among the words of a text. -/
def dirsIn (s : String) : List String := (words s).filter (isDir ·.toList)

/-- The directories that a command names. -/
def namedDirs (command : List String) : List String := command.flatMap dirsIn

theorem dirsIn_eq_nil {s : String}
    (h : ((s.toList.splitOnP (!isPathChar ·)).all fun cs => !isDir cs) = true) : dirsIn s = [] := by
  unfold dirsIn words
  rw [List.filter_eq_nil_iff, List.forall_mem_map]
  intro cs hcs
  rw [String.toList_ofList]
  have hword := List.all_eq_true.1 h cs hcs
  rw [Bool.not_eq_true'] at hword
  rw [hword]
  exact Bool.false_ne_true

theorem words_append_blank_append (x y : String) : words (x ++ (" " ++ y)) = words x ++ words y := by
  unfold words
  rw [String.toList_append, String.toList_append]
  exact (congrArg _ (List.splitOnP_append_cons _ _ (by decide))).trans List.map_append

theorem words_of_isPathChar {s : String} (h : ∀ c ∈ s.toList, isPathChar c = true) : words s = [s] := by
  unfold words
  rw [List.splitOnP_eq_singleton (fun c hc => by rw [h c hc]; rfl), List.map_singleton,
    String.ofList_toList]

theorem dirsIn_append_blank_append (x y : String) :
    dirsIn (x ++ (" " ++ y)) = dirsIn x ++ dirsIn y := by
  unfold dirsIn
  rw [words_append_blank_append, List.filter_append]

theorem dirsIn_append_of_endsBlank {x : String} (y : String) (h : x.toList.getLast? = some ' ') :
    dirsIn (x ++ y) = dirsIn x ++ dirsIn y := by
  obtain ⟨cs, hcs⟩ := List.getLast?_eq_some_iff.1 h
  have hx : x = String.ofList cs ++ " " := String.toList_injective (by simpa using hcs)
  have hdirs : dirsIn (String.ofList cs ++ " ") = dirsIn (String.ofList cs) := by
    have := dirsIn_append_blank_append (String.ofList cs) ""
    rwa [String.append_empty, show dirsIn "" = [] by decide, List.append_nil] at this
  rw [hx, String.append_assoc, dirsIn_append_blank_append, hdirs]

theorem dirsIn_append_of_startsBlank (x : String) {y : String} (h : y.toList.head? = some ' ') :
    dirsIn (x ++ y) = dirsIn x ++ dirsIn y := by
  obtain ⟨cs, hcs⟩ := List.head?_eq_some_iff.1 h
  have hy : y = " " ++ String.ofList cs := String.toList_injective (by simpa using hcs)
  have hdirs : dirsIn (" " ++ String.ofList cs) = dirsIn (String.ofList cs) := by
    have := dirsIn_append_blank_append "" (String.ofList cs)
    rwa [String.empty_append, show dirsIn "" = [] by decide, List.nil_append] at this
  rw [hy, dirsIn_append_blank_append, hdirs]

theorem mem_of_mem_words {s w : String} {c : Char} (hw : w ∈ words s) (hc : c ∈ w.toList) :
    c ∈ s.toList := by
  obtain ⟨cs, hcs, rfl⟩ := List.mem_map.1 hw
  rw [String.toList_ofList] at hc
  exact (mem_and_not_sep_of_mem_splitOnP hcs c hc).1

theorem dirsIn_of_slash_not_mem {s : String} (h : '/' ∉ s.toList) : dirsIn s = [] := by
  unfold dirsIn
  rw [List.filter_eq_nil_iff]
  intro w hw hdir
  obtain ⟨hslash, -⟩ := Bool.and_eq_true_iff.1 hdir
  have hmem : '/' ∈ w.toList := List.mem_of_head? (of_decide_eq_true hslash)
  exact h (mem_of_mem_words hw hmem)

theorem dirsIn_of_isDir {s : String} (h : ∀ c ∈ s.toList, isPathChar c = true)
    (hs : isDir s.toList = true) : dirsIn s = [s] := by
  unfold dirsIn
  rw [words_of_isPathChar h, List.filter_singleton, hs, cond_true]

/-! ### Characters of the parts of a command -/

theorem isSafeName_iff {name : String} :
    isSafeName name = true ↔ name ≠ "" ∧ ∀ c ∈ name.toList, IsNameChar c := by
  simp [isSafeName, IsNameChar, or_assoc]

/-! ### The quota script -/

theorem dirsIn_filled {head target middle limits tail : String}
    (hhead : head.toList.getLast? = some ' ') (hstart : middle.toList.head? = some ' ')
    (hend : middle.toList.getLast? = some ' ') (htail : tail.toList.head? = some ' ')
    (hh : dirsIn head = []) (hm : dirsIn middle = []) (ht : dirsIn tail = [])
    (hlimits : '/' ∉ limits.toList) (htarget : dirsIn target = [target]) :
    dirsIn (head ++ (target ++ (middle ++ (limits ++ tail)))) = [target] := by
  have hrest : (middle ++ (limits ++ tail)).toList.head? = some ' ' := by
    rw [String.toList_append, List.head?_append, hstart]
    rfl
  rw [dirsIn_append_of_endsBlank _ hhead, dirsIn_append_of_startsBlank _ hrest,
    dirsIn_append_of_endsBlank _ hend, dirsIn_append_of_startsBlank _ htail,
    dirsIn_of_slash_not_mem hlimits, hh, hm, ht, htarget]
  rfl

/-- The script up to the commands for XFS. -/
def scriptHead : String := "FS=`stat -f -c %T /data` ; if [[ \"$FS\" == \"xfs\" ]]; then "

/-- The script between the commands for XFS and those for the ext family. -/
def scriptMiddle : String := " elif [[ \"$FS\" == \"ext2/ext3\" ]]; then "

/-- The script between the commands for the ext family and the directory to remove. -/
def scriptElse : String := " else rm -rf "

/-- The end of the script. -/
def scriptTail : String := " ; exit 1; fi"

theorem quotaScript_eq (target : String) (limits : QuotaLimits) :
    quotaScript target limits = scriptHead ++ (xfsTemplate.fill target limits ++
      (scriptMiddle ++ (extTemplate.fill target limits ++
        (scriptElse ++ (target ++ scriptTail))))) := by
  have hhead : scriptHead =
      "FS=`stat -f -c %T /data` ; " ++ ("if" ++ (" [[ \"$FS\" == \"" ++
        (xfsTemplate.fileSystem ++ "\" ]]; then "))) := by decide +kernel
  have hmiddle : scriptMiddle =
      " " ++ ("elif" ++ (" [[ \"$FS\" == \"" ++ (extTemplate.fileSystem ++ "\" ]]; then "))) := by
    decide +kernel
  have helse : scriptElse = " " ++ "else rm -rf " := by decide +kernel
  rw [hhead, hmiddle, helse]
  unfold quotaScript quotaBranch scriptTail
  -- only the order of the appended parts matters, so the parts may be anything
  generalize xfsTemplate.fill target limits = xfs
  generalize extTemplate.fill target limits = ext
  generalize xfsTemplate.fileSystem = xfsName
  generalize extTemplate.fileSystem = extName
  simp only [String.append_assoc, -String.reduceAppend]

theorem isPathChar_of_mem_target {dir : String} (hdir : isSafeName dir = true) {c : Char}
    (hc : c ∈ (dataMount ++ dir).toList) : isPathChar c = true := by
  rw [String.toList_append, List.mem_append] at hc
  rcases hc with hc | hc
  · have hmount : dataMount.toList.all isPathChar = true := by decide
    exact List.all_eq_true.1 hmount c hc
  · simp [isPathChar, (isSafeName_iff.1 hdir).2 c hc]

theorem brace_not_mem_target {dir : String} (hdir : isSafeName dir = true) :
    '\x7b' ∉ (dataMount ++ dir).toList := by
  intro hc
  exact absurd (isPathChar_of_mem_target hdir hc) (by decide)

theorem isDir_target (dir : String) : isDir (dataMount ++ dir).toList = true := by
  have hslash : (dataMount ++ dir).toList.head? = some '/' := by
    rw [String.toList_append]
    rfl
  have hlong : (dataMount ++ dir).toList ≠ mountDir.toList := by
    intro heq
    have hlen := congrArg List.length heq
    simp [dataMount, mountDir] at hlen
  unfold isDir
  rw [hslash, decide_eq_true rfl, Bool.true_and]
  exact decide_eq_true hlong

theorem dirsIn_target {dir : String} (hdir : isSafeName dir = true) :
    dirsIn (dataMount ++ dir) = [dataMount ++ dir] :=
  dirsIn_of_isDir (fun _ => isPathChar_of_mem_target hdir) (isDir_target dir)

/-- A directory under the mount cannot be taken for part of a hole, since it starts with a slash. -/
theorem sparesHoles_target {dir : String} (hdir : isSafeName dir = true) : SparesHoles (dataMount ++ dir) := by
  intro hole hhole
  have hslash : ∀ hole ∈ holes, '/' ∉ hole.toList := by decide
  exact ⟨brace_not_mem_target hdir, '/', "data/".toList ++ dir.toList, by simp [dataMount], hslash hole hhole⟩

/-- A row of digits with a unit cannot be taken for part of a hole, since it starts with a digit. -/
theorem sparesHoles_append {digits unit : String} (hne : digits ≠ "") (hdigits : ∀ c ∈ digits.toList, c.isDigit = true)
    (hunit : '\x7b' ∉ unit.toList) : SparesHoles (digits ++ unit) := by
  intro hole hhole
  obtain ⟨c, rest, hfirst⟩ := List.exists_cons_of_ne_nil (show digits.toList ≠ [] by simpa using hne)
  have hholes : ∀ hole ∈ holes, hole.toList.any Char.isDigit = false := by decide
  rw [String.toList_append]
  refine ⟨?_, c, rest ++ unit.toList, by simp [hfirst], fun hc => ?_⟩
  · rw [List.mem_append, not_or]
    exact ⟨fun hbrace => absurd (hdigits _ hbrace) (by decide), hunit⟩
  · exact List.any_eq_false.1 (hholes hole hhole) c hc (hdigits c (by simp [hfirst]))

theorem sparesHoles_of_isSizeToken {token : String} (h : isSizeToken token = true) :
    SparesHoles token ∧ SparesHoles token.toUpper := by
  obtain ⟨digits, hlower, hupper, hne, hdigits⟩ := exists_digits_of_isSizeToken h
  rw [hupper, hlower]
  exact ⟨sparesHoles_append hne hdigits (by decide), sparesHoles_append hne hdigits (by decide)⟩

theorem slash_not_mem_of_isSizeToken {token : String} (h : isSizeToken token = true) :
    '/' ∉ token.toList ∧ '/' ∉ token.toUpper.toList := by
  obtain ⟨digits, hlower, hupper, -, hdigits⟩ := exists_digits_of_isSizeToken h
  have hslash : '/' ∉ digits.toList := fun hc => absurd (hdigits _ hc) (by decide)
  rw [hupper, hlower, String.toList_append, String.toList_append, List.mem_append, List.mem_append]
  simp [hslash]

/-- The script names its directory three times: for each family of file systems and to remove it. -/
theorem dirsIn_quotaScript {dir : String} {limits : QuotaLimits} (hdir : isSafeName dir = true)
    (hlimits : limits.isWellFormed = true) :
    dirsIn (quotaScript (dataMount ++ dir) limits) = List.replicate 3 (dataMount ++ dir) := by
  obtain ⟨hsoft, hhard⟩ := Bool.and_eq_true_iff.1 hlimits
  obtain ⟨hsparesLower, hsparesUpper⟩ := sparesHoles_of_isSizeToken hsoft
  obtain ⟨hsoftLower, hsoftUpper⟩ := slash_not_mem_of_isSizeToken hsoft
  obtain ⟨hhardLower, hhardUpper⟩ := slash_not_mem_of_isSizeToken hhard
  have hxfs : dirsIn (xfsTemplate.fill (dataMount ++ dir) limits) = [dataMount ++ dir] := by
    rw [fill_xfsTemplate (sparesHoles_target hdir) hsparesLower]
    apply dirsIn_filled (by decide +kernel) (by decide) (by decide +kernel) (by decide)
      (dirsIn_eq_nil (by decide +kernel)) (dirsIn_eq_nil (by decide +kernel))
      (dirsIn_eq_nil (by decide +kernel)) ?_ (dirsIn_target hdir)
    simp [hsoftLower, hhardLower]
  have hext : dirsIn (extTemplate.fill (dataMount ++ dir) limits) = [dataMount ++ dir] := by
    rw [fill_extTemplate (sparesHoles_target hdir) hsparesUpper]
    apply dirsIn_filled (by decide +kernel) (by decide) (by decide +kernel) (by decide)
      (dirsIn_eq_nil (by decide +kernel)) (dirsIn_eq_nil (by decide +kernel))
      (dirsIn_eq_nil (by decide +kernel)) ?_ (dirsIn_target hdir)
    rw [String.toList_append, String.toList_append]
    simp only [List.mem_append, hsoftUpper, hhardUpper, or_false, false_or]
    decide
  have hmiddle (y : String) : (scriptMiddle ++ y).toList.head? = some ' ' := by
    simp [scriptMiddle]
  have helse (y : String) : (scriptElse ++ y).toList.head? = some ' ' := by
    simp [scriptElse]
  have h1 : dirsIn scriptHead = [] := dirsIn_eq_nil (by decide +kernel)
  have h2 : dirsIn scriptMiddle = [] := dirsIn_eq_nil (by decide +kernel)
  have h3 : dirsIn scriptElse = [] := dirsIn_eq_nil (by decide +kernel)
  have h4 : dirsIn scriptTail = [] := dirsIn_eq_nil (by decide +kernel)
  rw [quotaScript_eq, dirsIn_append_of_endsBlank _ (by decide),
    dirsIn_append_of_startsBlank _ (hmiddle _), dirsIn_append_of_endsBlank _ (by decide),
    dirsIn_append_of_startsBlank _ (helse _), dirsIn_append_of_endsBlank _ (by decide),
    dirsIn_append_of_startsBlank _ (by decide), h1, h2, h3, h4, hxfs, hext, dirsIn_target hdir]
  rfl

/-! ### Commands -/

section
variable {dir : String} {command : List String}

theorem command_init_eq_ok_iff {mode : String} :
    (HelperOperation.init mode).command dir = .ok command ↔
      isSafeName dir = true ∧ HelperOperation.isMode mode = true ∧
        command = ["mkdir", "-m", mode, "-p", dataMount ++ dir] := by
  unfold HelperOperation.command
  cases isSafeName dir with
  | false => simp
  | true =>
    by_cases hmode : HelperOperation.isMode mode = true
    · simpa [hmode] using eq_comm
    · simp [hmode]

theorem command_quota_eq_ok_iff {limits : QuotaLimits} :
    (HelperOperation.quota limits).command dir = .ok command ↔
      isSafeName dir = true ∧ limits.isWellFormed = true ∧
        command = ["sh", "-c", quotaScript (dataMount ++ dir) limits] := by
  unfold HelperOperation.command
  cases isSafeName dir with
  | false => simp
  | true =>
    by_cases hlimits : limits.isWellFormed = true
    · simpa [hlimits] using eq_comm
    · simp [hlimits]

theorem command_cleanup_eq_ok_iff :
    HelperOperation.cleanup.command dir = .ok command ↔
      isSafeName dir = true ∧ command = ["rm", "-rf", dataMount ++ dir] := by
  unfold HelperOperation.command
  cases isSafeName dir with
  | false => simp
  | true => simpa using eq_comm

/-- How often the command of an operation works on its directory. -/
def HelperOperation.uses : HelperOperation → Nat
  | .quota _ => 3
  | _ => 1

/-- A command that is given for a directory names it as often as it works on it, and no other one. -/
theorem namedDirs_command {op : HelperOperation} (h : op.command dir = .ok command) :
    isSafeName dir = true ∧ namedDirs command = List.replicate op.uses (dataMount ++ dir) := by
  cases op with
  | init mode =>
    obtain ⟨hdir, hmode, rfl⟩ := command_init_eq_ok_iff.1 h
    have hdigits : '/' ∉ mode.toList := by
      intro hc
      have := List.all_eq_true.1 (Bool.and_eq_true_iff.1 hmode).2 _ hc
      simp at this
    refine ⟨hdir, ?_⟩
    unfold namedDirs
    rw [List.flatMap_cons, List.flatMap_cons, List.flatMap_cons, List.flatMap_cons,
      List.flatMap_singleton, dirsIn_of_slash_not_mem hdigits, dirsIn_target hdir]
    rfl
  | quota limits =>
    obtain ⟨hdir, hlimits, rfl⟩ := command_quota_eq_ok_iff.1 h
    refine ⟨hdir, ?_⟩
    unfold namedDirs
    rw [List.flatMap_cons, List.flatMap_cons, List.flatMap_singleton, dirsIn_quotaScript hdir hlimits]
    rfl
  | cleanup =>
    obtain ⟨hdir, rfl⟩ := command_cleanup_eq_ok_iff.1 h
    refine ⟨hdir, ?_⟩
    unfold namedDirs
    rw [List.flatMap_cons, List.flatMap_cons, List.flatMap_singleton, dirsIn_target hdir]
    rfl

end

end NodeVolumes.HostPath
