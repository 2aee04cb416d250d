import NodeVolumes.Proofs.HostPath.HelperPod
import NodeVolumes.Proofs.HostPath.Nesting
import NodeVolumes.Proofs.HostPath.Script

/-! # Where helper commands work

A command works where the path in it leads to, which is below the data mount when the last step of the path is the
name of a directory. The names `.` and `..` are made of the characters of names, and so they pass the check of a
command; as steps they lead to the mount itself and to the root above it. Only the cut of a volume's path keeps them
out of the commands of pods.

* `place`: where a path leads to when `.` and `..` are resolved.
* `place_target`: where a command works that is made for a safe name.
* `command_works_below_mount`: the names for which this is below the mount, and the commands of pods. -/

namespace NodeVolumes.HostPath

variable {path dir parent leaf : String} {l names : List String} {op : HelperOperation} {command : List String}

/-! ### Places -/

/-- Where a step leads to from a place: one level up for `..`, if there is one, and down for any other step. -/
def walk (names : List String) (step : String) : List String :=
  if step = ".." then names.dropLast else names ++ [step]

/-- The place that a path leads to: the names of the directories on the way to it from the root. -/
def place (path : String) : List String := (steps path).foldl walk []

/-- One path leads to a directory right below the one that the other path leads to. -/
def IsChildOf (path parent : String) : Prop := ∃ name, place path = place parent ++ [name]

theorem place_append_slash (above below : String) :
    place (above ++ "/" ++ below) = (steps below).foldl walk (place above) := by
  unfold place
  rw [steps_append_slash, List.foldl_append]

theorem foldl_walk_of_up_not_mem (h : ".." ∉ l) : l.foldl walk names = names ++ l := by
  induction l generalizing names with
  | nil => simp
  | cons step l ih =>
    obtain ⟨hstep, hrest⟩ := not_or.1 (List.mem_cons.not.1 h)
    rw [List.foldl_cons, ih hrest, walk, if_neg (Ne.symm hstep), List.append_assoc]
    rfl

theorem place_of_up_not_mem (h : ".." ∉ steps path) : place path = steps path := by
  unfold place
  rw [foldl_walk_of_up_not_mem h, List.nil_append]

theorem LeadsDown.place_eq (h : LeadsDown path l) : place path = l := by
  have hup : ".." ∉ HostPath.steps path := by
    rw [h.steps_eq]
    exact fun hmem => (h.isDownward _ hmem).2.2 rfl
  rw [place_of_up_not_mem hup, h.steps_eq]

theorem place_of_splitForMount (h : splitForMount path = .ok (parent, leaf)) :
    place path = place parent ++ [leaf] := by
  obtain ⟨above, hdown, -, rfl⟩ := splitForMount_eq_ok_iff.1 h
  have hnames {s : String} (hs : s ∈ above) : IsDownward s := hdown.isDownward s (List.mem_append_left _ hs)
  have hsteps : steps (ofSteps above) = above := by
    refine steps_ofSteps hdown.above_ne_nil (fun s hs => ?_) fun s hs => ⟨(hnames hs).1, (hnames hs).2.1⟩
    exact hdown.slash_not_mem s (List.mem_append_left _ hs)
  have hup : ".." ∉ steps (ofSteps above) := by
    rw [hsteps]
    exact fun hmem => (hnames hmem).2.2 rfl
  rw [hdown.place_eq, place_of_up_not_mem hup, hsteps]

/-! ### Targets of commands -/

/-- Where a command works that is made for a safe name: in the directory of this name below the mount, unless the name
is one of the two steps that do not lead down. -/
theorem place_target (hdir : isSafeName dir = true) : place (dataMount ++ dir) =
    if dir = "." then place dataMount else if dir = ".." then place "/" else place dataMount ++ [dir] := by
  obtain ⟨hempty, hchars⟩ := isSafeName_iff.1 hdir
  by_cases hdot : dir = "."
  · subst hdot
    decide
  by_cases hup : dir = ".."
  · subst hup
    decide
  have hslash : '/' ∉ dir.toList := fun hmem => absurd (hchars _ hmem) (by decide)
  have htarget : dataMount ++ dir = mountDir ++ "/" ++ dir := rfl
  have hmount : place mountDir = place dataMount := by decide
  rw [if_neg hdot, if_neg hup, htarget, place_append_slash, steps_eq_singleton_iff.2 ⟨hempty, hdot, hslash⟩, hmount]
  exact foldl_walk_of_up_not_mem fun hmem => hup (List.mem_singleton.1 hmem).symm

theorem isChildOf_target_iff (hdir : isSafeName dir = true) :
    IsChildOf (dataMount ++ dir) dataMount ↔ dir ≠ "." ∧ dir ≠ ".." := by
  unfold IsChildOf
  rw [place_target hdir]
  constructor
  · rintro ⟨name, hname⟩
    -- the mount and the root are no deeper than the mount, and a child of it is
    have hlength := congrArg List.length hname
    constructor
    · rintro rfl
      simp at hlength
    · rintro rfl
      simp [show place "/" = [] by decide] at hlength
  · rintro ⟨hdot, hup⟩
    rw [if_neg hdot, if_neg hup]
    exact ⟨dir, rfl⟩

theorem exists_command_iff :
    (∃ command, op.command dir = .ok command) ↔ isSafeName dir = true ∧ op.isFit = true := by
  constructor
  · rintro ⟨command, hcommand⟩
    by_contra hunfit
    obtain ⟨message, hrefused⟩ := exists_of_command_refused hunfit
    rw [hcommand] at hrefused
    cases hrefused
  · rintro ⟨hdir, hfit⟩
    cases op with
    | init mode => exact ⟨_, command_init_eq_ok_iff.2 ⟨hdir, hfit, rfl⟩⟩
    | quota limits => exact ⟨_, command_quota_eq_ok_iff.2 ⟨hdir, hfit, rfl⟩⟩
    | cleanup => exact ⟨_, command_cleanup_eq_ok_iff.2 ⟨hdir, rfl⟩⟩

/-- Where the commands of an operation work.

A command that is given for a name names one path and no other one but the mount, and this path leads to the directory
of that name right below the mount exactly when the name is neither `.` nor `..`. With these two it leads to the mount
itself and to the root, and when the operation fits, a command is given for them, too. The command of a pod that is
built for a task always works right below the mount, and the directory that the pod sees there is the one that the path
of the task leads to. -/
theorem command_works_below_mount (op : HelperOperation) :
    (∀ dir command, op.command dir = .ok command →
      namedDirs command = List.replicate op.uses (dataMount ++ dir) ∧
      (IsChildOf (dataMount ++ dir) dataMount ↔ dir ≠ "." ∧ dir ≠ "..") ∧
      place (dataMount ++ dir) =
        if dir = "." then place dataMount else if dir = ".." then place "/" else place dataMount ++ [dir]) ∧
    (∀ dir, dir = "." ∨ dir = ".." → ((∃ command, op.command dir = .ok command) ↔ op.isFit = true)) ∧
    ∀ (task : HelperTask) settings pod, task.operation = op → task.pod settings = .ok pod → ∃ parent leaf command,
      pod.hostDirs "data" = [parent] ∧ pod.mountPaths "data" = [dataMount] ∧ pod.commands = [command] ∧
      op.command leaf = .ok command ∧ namedDirs command = List.replicate op.uses (dataMount ++ leaf) ∧
      place (dataMount ++ leaf) = place dataMount ++ [leaf] ∧ place task.path = place parent ++ [leaf] := by
  refine ⟨fun dir command h => ?_, fun dir hdir => ?_, ?_⟩
  · obtain ⟨hdir, hnamed⟩ := namedDirs_command h
    exact ⟨hnamed, isChildOf_target_iff hdir, place_target hdir⟩
  · have hsafe : isSafeName dir = true := by
      rcases hdir with rfl | rfl <;> decide
    rw [exists_command_iff, and_iff_right hsafe]
  · rintro task settings pod rfl h
    obtain ⟨-, parent, leaf, command, hsplit, hcommand, -, hdirs, hmounts, hcommands, -⟩ := HelperTask.pod_eq_ok h
    obtain ⟨hsafe, hnamed⟩ := namedDirs_command hcommand
    obtain ⟨above, hdown, -, rfl⟩ := splitForMount_eq_ok_iff.1 hsplit
    have hleaf : IsDownward leaf := hdown.isDownward leaf (by simp)
    refine ⟨_, leaf, command, hdirs, hmounts, hcommands, hcommand, hnamed, ?_, place_of_splitForMount hsplit⟩
    rw [place_target hsafe, if_neg hleaf.2.1, if_neg hleaf.2.2]

/-- Three dots are the name of a directory, two lead to the root. The pod for a path with steps that lead nowhere works
on the directory at its end. -/
theorem command_works_below_mount_dots :
    IsChildOf "/data/..." dataMount ∧ ¬IsChildOf "/data/.." dataMount ∧
      (∃ command, HelperOperation.cleanup.command ".." = .ok command) ∧
      ∃ task : HelperTask, ∃ settings pod parent, task.path = "//var/./local/pvc-1/" ∧
        task.pod settings = .ok pod ∧ pod.hostDirs "data" = [parent] ∧ place parent = ["var", "local"] := by
  obtain ⟨hplaces, hsteps, hpods⟩ := command_works_below_mount .cleanup
  have hdots : HelperOperation.cleanup.command "..." = .ok ["rm", "-rf", "/data/..."] := by decide
  have hup : HelperOperation.cleanup.command ".." = .ok ["rm", "-rf", "/data/.."] := by decide
  obtain ⟨-, hchild, -⟩ := hplaces _ _ hdots
  obtain ⟨-, hroot, -⟩ := hplaces _ _ hup
  let task : HelperTask :=
    ⟨.cleanup, "pvc-1", "//var/./local/pvc-1/", KeyMap.singleton "kubernetes.io/hostname" "node-1", []⟩
  have hpod : ∃ pod, task.pod { serviceAccount := "openebs" } = .ok pod := by
    refine HelperTask.exists_pod_iff.2 ⟨by decide, "/var/local", "pvc-1", ["rm", "-rf", "/data/pvc-1"], ?_, ?_⟩
    · decide
    · decide
  obtain ⟨pod, hpod⟩ := hpod
  obtain ⟨parent, leaf, command, hdirs, -, -, -, -, -, hplace⟩ := hpods task _ _ rfl hpod
  have hpath : place task.path = ["var", "local"] ++ ["pvc-1"] := by decide
  refine ⟨hchild.2 (by decide), fun h => (hroot.1 h).2 rfl, (hsteps ".." (.inr rfl)).2 rfl, task, _, pod,
    parent, rfl, hpod, hdirs, ?_⟩
  exact (List.append_inj' (hplace.symm.trans hpath) rfl).1

/-- A quota may be set on the mounted directory itself. -/
theorem not_command_works_below_mount :
    ¬∀ (op : HelperOperation) dir command, op.command dir = .ok command →
      IsChildOf (dataMount ++ dir) dataMount := by
  intro h
  have hcommand : (HelperOperation.quota ⟨"1954k", "2345k"⟩).command "." =
      .ok ["sh", "-c", quotaScript (dataMount ++ ".") ⟨"1954k", "2345k"⟩] :=
    command_quota_eq_ok_iff.2 ⟨by decide, by decide, rfl⟩
  obtain ⟨name, hname⟩ := h _ _ _ hcommand
  exact absurd (congrArg List.length hname) (by simp [show place (dataMount ++ ".") = place dataMount by decide])

end NodeVolumes.HostPath
