import NodeVolumes.HostPath.Operation
import NodeVolumes.Proofs.Text.Filling

/-! # The filled quota script

The templates of the quota script are filled one kind of holes after the other. A value that can be put in is never
taken for part of a hole, so the result is the same as if all holes were filled at once.

* `fill_eq_filledAtOnce`: what a template becomes, whatever its text.
* `fill_eq`: what it becomes when it is made of the three holes and text without holes.
* `fill_xfsTemplate`, `fill_extTemplate`: the two templates as they are filled. -/

namespace NodeVolumes.HostPath

/-! ### Holes -/

/-- The kinds of holes that a template may have. -/
def holes : List String := [dirHole, softHole, hardHole]

theorem isHole {hole : String} (h : hole ∈ holes) : Text.IsHole '\x7b' hole.toList := by
  simp only [holes, List.mem_cons, List.not_mem_nil, or_false] at h
  rcases h with rfl | rfl | rfl
  · exact ⟨"dir\x7d".toList, by decide⟩
  · exact ⟨"soft\x7d".toList, by decide⟩
  · exact ⟨"hard\x7d".toList, by decide⟩

theorem isApart_of_ne {hole other : String} (h : hole ∈ holes) (h' : other ∈ holes) (hne : hole ≠ other) :
    Text.isApart hole.toList other.toList = true := by
  have hall : ∀ hole ∈ holes, ∀ other ∈ holes, hole ≠ other → Text.isApart hole.toList other.toList = true := by
    decide
  exact hall hole h other h' hne

/-- A value cannot be taken for part of any hole. -/
def SparesHoles (value : String) : Prop := ∀ hole ∈ holes, Text.Spares '\x7b' hole.toList value.toList

/-- Tells the texts in which no hole starts. -/
def isSolid (x : String) : Bool :=
  [dirHole, softHole, hardHole].all fun hole => Text.isApart hole.toList x.toList

/-! ### Filling at once -/

variable {target : String} {limits : QuotaLimits}

/-- What is put into the holes of a template. -/
def fillings (target soft hard : String) : List Text.Filling :=
  [⟨dirHole.toList, target.toList⟩, ⟨softHole.toList, soft.toList⟩, ⟨hardHole.toList, hard.toList⟩]

/-- The text of a template with all of its holes filled at once. -/
def QuotaTemplate.filledAtOnce (t : QuotaTemplate) (target soft hard : String) : String :=
  String.ofList (Text.fillAtOnce (fillings target soft hard) t.body.toList)

/-- Whatever the text of a template, its holes might as well be filled at once. -/
theorem fill_eq_filledAtOnce (t : QuotaTemplate) (htarget : SparesHoles target)
    (hsoft : SparesHoles (t.limit limits.soft)) : t.fill target limits =
      t.filledAtOnce target (t.limit limits.soft) (t.limit limits.hard) := by
  have hdirHole : dirHole ∈ holes := by decide
  have hsoftHole : softHole ∈ holes := by decide
  have hhardHole : hardHole ∈ holes := by decide
  unfold QuotaTemplate.fill fillHole QuotaTemplate.filledAtOnce fillings
  rw [String.toList_ofList, String.toList_ofList, ← Text.fillAtOnce_no_fillings t.body.toList,
    Text.replaceAll_fillAtOnce (isHole hdirHole) (by simp), Text.replaceAll_fillAtOnce (isHole hsoftHole),
    Text.replaceAll_fillAtOnce (isHole hhardHole), Text.fillAtOnce_no_fillings]
  · rfl
  · -- the hard limit goes in last, so the other two values have to leave its hole alone
    intro f hf
    simp only [List.nil_append, List.singleton_append, List.mem_cons, List.not_mem_nil, or_false] at hf
    rcases hf with rfl | rfl
    · exact ⟨isHole hdirHole, isApart_of_ne hdirHole hhardHole (by decide), htarget hardHole hhardHole⟩
    · exact ⟨isHole hsoftHole, isApart_of_ne hsoftHole hhardHole (by decide), hsoft hardHole hhardHole⟩
  · intro f hf
    simp only [List.nil_append, List.mem_singleton] at hf
    subst hf
    exact ⟨isHole hdirHole, isApart_of_ne hdirHole hsoftHole (by decide), htarget softHole hsoftHole⟩

theorem fillAtOnce_append_of_isSolid {x soft hard : String} (y : List Char) (h : isSolid x = true) :
    Text.fillAtOnce (fillings target soft hard) (x.toList ++ y) =
      x.toList ++ Text.fillAtOnce (fillings target soft hard) y := by
  refine Text.fillAtOnce_append_of_apart y fun f hf => ?_
  have hall := List.all_eq_true.1 h
  simp only [fillings, List.mem_cons, List.not_mem_nil, or_false] at hf
  rcases hf with rfl | rfl | rfl
  · exact hall dirHole (by decide)
  · exact hall softHole (by decide)
  · exact hall hardHole (by decide)

theorem fillAtOnce_hole_append {f : Text.Filling} {soft hard : String} (y : List Char)
    (hf : f ∈ fillings target soft hard) : Text.fillAtOnce (fillings target soft hard) (f.hole ++ y) =
      f.value ++ Text.fillAtOnce (fillings target soft hard) y := by
  simp only [fillings, List.mem_cons, List.not_mem_nil, or_false] at hf
  rcases hf with rfl | rfl | rfl
  · exact Text.fillAtOnce_hole_append y (show dirHole.toList ≠ [] by decide) rfl
  · exact Text.fillAtOnce_hole_append y (show softHole.toList ≠ [] by decide) rfl
  · exact Text.fillAtOnce_hole_append y (show hardHole.toList ≠ [] by decide) rfl

/-- A template is filled by putting every value in the place of its hole, when no hole starts in the text between the
holes. -/
theorem fill_eq {t : QuotaTemplate} {a b c d : String}
    (hbody : t.body = a ++ (dirHole ++ (b ++ (softHole ++ (c ++ (hardHole ++ d))))))
    (ha : isSolid a = true) (hb : isSolid b = true) (hc : isSolid c = true) (hd : isSolid d = true)
    (htarget : SparesHoles target) (hsoft : SparesHoles (t.limit limits.soft)) :
    t.fill target limits =
      a ++ (target ++ (b ++ (t.limit limits.soft ++ (c ++ (t.limit limits.hard ++ d))))) := by
  refine String.toList_injective ?_
  rw [fill_eq_filledAtOnce t htarget hsoft, QuotaTemplate.filledAtOnce, String.toList_ofList, hbody]
  generalize t.limit limits.soft = soft
  generalize t.limit limits.hard = hard
  have hdirMem : ⟨dirHole.toList, target.toList⟩ ∈ fillings target soft hard := by simp [fillings]
  have hsoftMem : ⟨softHole.toList, soft.toList⟩ ∈ fillings target soft hard := by simp [fillings]
  have hhardMem : ⟨hardHole.toList, hard.toList⟩ ∈ fillings target soft hard := by simp [fillings]
  have hend : Text.fillAtOnce (fillings target soft hard) d.toList = d.toList := by
    rw [← List.append_nil d.toList, fillAtOnce_append_of_isSolid [] hd, Text.fillAtOnce_nil]
  simp only [String.toList_append]
  rw [fillAtOnce_append_of_isSolid _ ha, fillAtOnce_hole_append _ hdirMem, fillAtOnce_append_of_isSolid _ hb,
    fillAtOnce_hole_append _ hsoftMem, fillAtOnce_append_of_isSolid _ hc, fillAtOnce_hole_append _ hhardMem, hend]

/-! ### The two templates -/

/-- The XFS template in front of the directory. -/
def xfsHead : String :=
  "PID=`xfs_quota -x -c 'report -h' /data | tail -2 | " ++
    "awk 'NR==1\x7bprint substr ($1,2)\x7d+0'` ; PID=`expr $PID + 1` ; " ++
    "xfs_quota -x -c 'project -s -p "

/-- The XFS template between the directory and the limits. -/
def xfsMiddle : String := " '$PID /data ; xfs_quota -x -c 'limit -p "

/-- The XFS template behind the limits. -/
def xfsTail : String := " '$PID /data ;"

/-- The ext template in front of the directory. -/
def extHead : String :=
  "PID=`repquota -P /data | tail -3 | awk 'NR==1\x7bprint substr ($1,2)\x7d+0'` ; " ++
    "PID=`expr $PID + 1` ; chattr +P -p $PID "

/-- The ext template between the directory and the limits. -/
def extMiddle : String := " ; setquota -P $PID "

/-- The ext template behind the limits. -/
def extTail : String := " 0 0 /data ;"

theorem fill_xfsTemplate (htarget : SparesHoles target) (hsoft : SparesHoles limits.soft) :
    xfsTemplate.fill target limits =
      xfsHead ++ (target ++ (xfsMiddle ++
        (("bsoft=" ++ limits.soft ++ " bhard=" ++ limits.hard) ++ xfsTail))) := by
  have hbody : xfsTemplate.body = xfsHead ++ (dirHole ++ ((xfsMiddle ++ "bsoft=") ++
      (softHole ++ (" bhard=" ++ (hardHole ++ xfsTail))))) := by decide +kernel
  rw [fill_eq hbody (by decide +kernel) (by decide +kernel) (by decide +kernel) (by decide +kernel)
    htarget hsoft]
  simp only [QuotaTemplate.limit, xfsTemplate, String.append_assoc]
  rfl

theorem fill_extTemplate (htarget : SparesHoles target) (hsoft : SparesHoles limits.soft.toUpper) :
    extTemplate.fill target limits =
      extHead ++ (target ++ (extMiddle ++
        ((limits.soft.toUpper ++ " " ++ limits.hard.toUpper) ++ extTail))) := by
  have hbody : extTemplate.body = extHead ++ (dirHole ++ (extMiddle ++
      (softHole ++ (" " ++ (hardHole ++ extTail))))) := by decide +kernel
  rw [fill_eq hbody (by decide +kernel) (by decide +kernel) (by decide +kernel) (by decide +kernel)
    htarget hsoft]
  simp only [QuotaTemplate.limit, extTemplate, String.append_assoc]
  rfl

end NodeVolumes.HostPath
