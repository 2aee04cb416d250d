import NodeVolumes.Text.Replace

/-! # Filling the holes of a text

A template has holes, which are filled one kind after the other. What is put in at one time might be replaced at the
next one, or make a hole together with the text around it. It does not when each hole starts with a mark of its own,
and each value has no mark and starts with a character that is in no hole. Then the result is the same as if all holes
were filled at once.

* `replaceAll_append_of_apart`: a text that no pattern can start in is passed over.
* `fillAtOnce`: all holes of a text filled at once.
* `replaceAll_fillAtOnce`: filling one more kind of holes afterwards.
* `not_infix_fillAtOnce`: no hole is left. -/

namespace NodeVolumes.Text

/-! ### Texts apart from a pattern -/

/-- Tells whether no occurrence of a pattern starts in a text, whatever follows the text. -/
def isApart (pattern : List Char) : List Char → Bool
  | [] => true
  | c :: rest =>
    !pattern.isPrefixOf (c :: rest) && !(c :: rest).isPrefixOf pattern && isApart pattern rest

section
variable {pattern new x y : List Char} {c : Char}

theorem isApart_cons_iff : isApart pattern (c :: x) = true ↔
    ¬ pattern <+: c :: x ∧ ¬ c :: x <+: pattern ∧ isApart pattern x = true := by
  simp only [isApart, Bool.and_eq_true, Bool.not_eq_true', ← Bool.not_eq_true, List.isPrefixOf_iff_prefix, and_assoc]

theorem not_prefix_append_of_apart (y : List Char) (h : isApart pattern (c :: x) = true) :
    ¬ pattern <+: c :: (x ++ y) := by
  obtain ⟨hlong, hshort, -⟩ := isApart_cons_iff.1 h
  intro hpre
  rcases List.prefix_or_prefix_of_prefix hpre (List.prefix_append (c :: x) y) with h | h
  · exact hlong h
  · exact hshort h

theorem isApart_of_not_mem {pattern : List Char} (h : c ∉ x) : isApart (c :: pattern) x = true := by
  induction x with
  | nil => rfl
  | cons d rest ih =>
    rw [List.mem_cons, not_or] at h
    refine isApart_cons_iff.2 ⟨fun hpre => h.1 ?_, fun hpre => h.1 ?_, ih h.2⟩
    · exact (List.cons_prefix_cons.1 hpre).1
    · exact (List.cons_prefix_cons.1 hpre).1.symm

/-! ### Replacing in a text that is put together -/

theorem replaceAll_nil (pattern new : List Char) : replaceAll pattern new [] = [] := by
  unfold replaceAll
  split <;> rfl

/-- A text that the pattern cannot start in stays as it is, and replacing goes on behind it. -/
theorem replaceAll_append_of_apart (y : List Char) (h : isApart pattern x = true) :
    replaceAll pattern new (x ++ y) = x ++ replaceAll pattern new y := by
  by_cases hp : pattern = []
  · unfold replaceAll
    simp [hp]
  induction x with
  | nil => rfl
  | cons c rest ih =>
    obtain ⟨-, -, hrest⟩ := isApart_cons_iff.1 h
    rw [List.cons_append, replaceAll, dif_neg hp, if_neg (not_prefix_append_of_apart y h), ih hrest,
      List.cons_append]

theorem replaceAll_pattern_append (hp : pattern ≠ []) (y : List Char) :
    replaceAll pattern new (pattern ++ y) = new ++ replaceAll pattern new y := by
  obtain ⟨c, rest, rfl⟩ := List.exists_cons_of_ne_nil hp
  rw [List.cons_append, replaceAll, dif_neg hp, if_pos (by simp)]
  simp

theorem replaceAll_cons_of_not_prefix (h : ¬ pattern <+: c :: x) :
    replaceAll pattern new (c :: x) = c :: replaceAll pattern new x := by
  have hp : pattern ≠ [] := fun hp => h (hp ▸ List.nil_prefix)
  rw [replaceAll, dif_neg hp, if_neg h]

end

/-! ### Filling at once -/

/-- The holes of one kind, and the text to put into them. -/
structure Filling where
  hole : List Char
  value : List Char

/-- A text with all holes filled at once, from left to right. What has been put in is not looked at again. -/
def fillAtOnce (fillings : List Filling) (cs : List Char) : List Char :=
  match cs with
  | [] => []
  | c :: rest =>
    match fillings.find? (·.hole.isPrefixOf (c :: rest)) with
    | some f => f.value ++ fillAtOnce fillings (rest.drop (f.hole.length - 1))
    | none => c :: fillAtOnce fillings rest
termination_by cs.length
decreasing_by
  · simp only [List.length_drop, List.length_cons]; omega
  · simp

variable {mark : Char} {pattern name new x cs : List Char} {fillings : List Filling} {f : Filling}

theorem fillAtOnce_nil (fillings : List Filling) : fillAtOnce fillings [] = [] := by
  unfold fillAtOnce
  rfl

theorem fillAtOnce_of_find?_eq_some {c : Char} {rest : List Char}
    (h : fillings.find? (·.hole.isPrefixOf (c :: rest)) = some f) :
    fillAtOnce fillings (c :: rest) = f.value ++ fillAtOnce fillings (rest.drop (f.hole.length - 1)) := by
  rw [fillAtOnce, h]

theorem fillAtOnce_of_find?_eq_none {c : Char} {rest : List Char}
    (h : fillings.find? (·.hole.isPrefixOf (c :: rest)) = none) :
    fillAtOnce fillings (c :: rest) = c :: fillAtOnce fillings rest := by
  rw [fillAtOnce, h]

theorem fillAtOnce_hole_append (y : List Char) (hhole : f.hole ≠ [])
    (hfind : fillings.find? (·.hole.isPrefixOf (f.hole ++ y)) = some f) :
    fillAtOnce fillings (f.hole ++ y) = f.value ++ fillAtOnce fillings y := by
  obtain ⟨c, name, hname⟩ := List.exists_cons_of_ne_nil hhole
  rw [hname, List.cons_append] at hfind ⊢
  rw [fillAtOnce_of_find?_eq_some hfind, hname]
  simp

theorem prefix_of_find?_eq_some (h : fillings.find? (·.hole.isPrefixOf cs) = some f) : f.hole <+: cs := by
  have hstart := List.find?_some h
  exact List.isPrefixOf_iff_prefix.1 hstart

theorem fillAtOnce_no_fillings (cs : List Char) : fillAtOnce [] cs = cs := by
  induction cs with
  | nil => exact fillAtOnce_nil []
  | cons c rest ih => rw [fillAtOnce_of_find?_eq_none rfl, ih]

theorem fillAtOnce_append_of_apart (y : List Char) (h : ∀ f ∈ fillings, isApart f.hole x = true) :
    fillAtOnce fillings (x ++ y) = x ++ fillAtOnce fillings y := by
  induction x with
  | nil => rfl
  | cons c x ih =>
    have hnone : fillings.find? (·.hole.isPrefixOf (c :: (x ++ y))) = none := by
      rw [List.find?_eq_none]
      intro f hf
      rw [List.isPrefixOf_iff_prefix]
      exact not_prefix_append_of_apart y (h f hf)
    rw [List.cons_append, fillAtOnce_of_find?_eq_none hnone, List.cons_append]
    rw [ih fun f hf => (isApart_cons_iff.1 (h f hf)).2.2]

/-! ### Marks -/

/-- The pattern of a hole: a mark, and then a name without that mark. -/
def IsHole (mark : Char) (hole : List Char) : Prop := ∃ name, hole = mark :: name ∧ mark ∉ name

/-- A value cannot be taken for part of a pattern: it has no mark, and it starts with a character that the pattern does
not have. -/
structure Spares (mark : Char) (pattern value : List Char) : Prop where
  mark_not_mem : mark ∉ value
  head : ∃ c rest, value = c :: rest ∧ c ∉ pattern

theorem Spares.tail {c : Char} {value : List Char} (h : Spares mark (c :: name) value) : Spares mark name value := by
  obtain ⟨d, rest, hvalue, hd⟩ := h.head
  exact ⟨h.mark_not_mem, d, rest, hvalue, fun hmem => hd (List.mem_cons_of_mem c hmem)⟩

/-- Filling does not change whether the text starts with a certain name without marks. -/
theorem prefix_fillAtOnce_iff (hname : mark ∉ name)
    (hfillings : ∀ f ∈ fillings, IsHole mark f.hole ∧ Spares mark name f.value) :
    name <+: fillAtOnce fillings cs ↔ name <+: cs := by
  induction name generalizing cs with
  | nil => exact iff_of_true List.nil_prefix List.nil_prefix
  | cons d name ih =>
    cases cs with
    | nil => rw [fillAtOnce_nil]
    | cons c rest =>
      cases hfind : fillings.find? (·.hole.isPrefixOf (c :: rest)) with
      | none =>
        rw [fillAtOnce_of_find?_eq_none hfind, List.cons_prefix_cons, List.cons_prefix_cons,
          ih (fun hmem => hname (List.mem_cons_of_mem d hmem)) fun f hf =>
            ⟨(hfillings f hf).1, (hfillings f hf).2.tail⟩]
      | some f =>
        -- the text starts with a mark, and with the value in its place
        obtain ⟨⟨holeName, hhole, -⟩, hspares⟩ := hfillings f (List.mem_of_find?_eq_some hfind)
        obtain ⟨v, value, hvalue, hv⟩ := hspares.head
        have hmark : mark = c := by
          have hprefix := prefix_of_find?_eq_some hfind
          rw [hhole] at hprefix
          exact (List.cons_prefix_cons.1 hprefix).1
        rw [fillAtOnce_of_find?_eq_some hfind, hvalue, List.cons_append, List.cons_prefix_cons,
          List.cons_prefix_cons]
        refine iff_of_false (fun h => hv ?_) (fun h => hname ?_)
        · exact h.1 ▸ List.mem_cons_self
        · exact hmark ▸ h.1 ▸ List.mem_cons_self

/-- Holes that are filled after the others might as well have been filled together with them. -/
theorem replaceAll_fillAtOnce (hpattern : IsHole mark pattern)
    (hfillings : ∀ f ∈ fillings, IsHole mark f.hole ∧ isApart f.hole pattern = true ∧ Spares mark pattern f.value) :
    replaceAll pattern new (fillAtOnce fillings cs) = fillAtOnce (fillings ++ [⟨pattern, new⟩]) cs := by
  obtain ⟨name, rfl, hname⟩ := hpattern
  induction cs using fillAtOnce.induct (fillings ++ [⟨mark :: name, new⟩]) with
  | case1 => rw [fillAtOnce_nil, fillAtOnce_nil, replaceAll_nil]
  | case2 c rest f hfind ih =>
    rw [fillAtOnce_of_find?_eq_some hfind, ← ih]
    rw [List.find?_append] at hfind
    cases hfirst : fillings.find? (·.hole.isPrefixOf (c :: rest)) with
    | some g =>
      rw [hfirst, Option.some_or, Option.some.injEq] at hfind
      subst hfind
      have hspares := (hfillings g (List.mem_of_find?_eq_some hfirst)).2.2
      rw [fillAtOnce_of_find?_eq_some hfirst,
        replaceAll_append_of_apart _ (isApart_of_not_mem hspares.mark_not_mem)]
    | none =>
      rw [hfirst, Option.none_or] at hfind
      have hf := List.mem_singleton.1 (List.mem_of_find?_eq_some hfind)
      obtain ⟨below, hbelow⟩ := prefix_of_find?_eq_some hfind
      subst hf
      have hdrop : rest.drop ((mark :: name).length - 1) = below := by
        rw [List.cons_append, List.cons.injEq] at hbelow
        rw [← hbelow.2]
        simp
      dsimp only at hbelow ⊢
      rw [hdrop, ← hbelow, fillAtOnce_append_of_apart _ fun g hg => (hfillings g hg).2.1,
        replaceAll_pattern_append (List.cons_ne_nil _ _)]
  | case3 c rest hfind ih =>
    rw [fillAtOnce_of_find?_eq_none hfind, ← ih]
    rw [List.find?_append, Option.or_eq_none_iff] at hfind
    have hnot : ¬ mark :: name <+: c :: rest := by
      have := List.find?_eq_none.1 hfind.2 _ (List.mem_singleton_self _)
      rwa [List.isPrefixOf_iff_prefix] at this
    have hfilled : ¬ mark :: name <+: c :: fillAtOnce fillings rest := by
      rw [List.cons_prefix_cons] at hnot ⊢
      rwa [prefix_fillAtOnce_iff hname fun f hf => ⟨(hfillings f hf).1, (hfillings f hf).2.2.tail⟩]
    rw [fillAtOnce_of_find?_eq_none hfind.1, replaceAll_cons_of_not_prefix hfilled]

/-! ### Holes that are left -/

theorem infix_of_infix_append {y : List Char} (hx : mark ∉ x) (h : mark :: name <:+: x ++ y) :
    mark :: name <:+: y := by
  induction x with
  | nil => exact h
  | cons c x ih =>
    rw [List.mem_cons, not_or] at hx
    rw [List.cons_append, List.infix_cons_iff] at h
    rcases h with h | h
    · exact absurd (List.cons_prefix_cons.1 h).1 hx.1
    · exact ih hx.2 h

theorem infix_or_infix_of_append_cons {c : Char} {y : List Char} (hc : c ∉ pattern)
    (h : pattern <:+: x ++ c :: y) : pattern <:+: x ∨ pattern <:+: y := by
  have hstop {x : List Char} (h : pattern <+: x ++ c :: y) : pattern <+: x := by
    rcases List.prefix_or_prefix_of_prefix h (List.prefix_append x _) with h | ⟨more, rfl⟩
    · exact h
    · cases more with
      | nil => exact (List.append_nil x).symm ▸ List.prefix_rfl
      | cons d more =>
        rw [List.prefix_append_right_inj, List.cons_prefix_cons] at h
        exact absurd (h.1 ▸ List.mem_append_right x List.mem_cons_self) hc
  induction x with
  | nil =>
    rw [List.nil_append, List.infix_cons_iff] at h
    exact h.imp_left fun hprefix => (hstop (x := []) hprefix).isInfix
  | cons d x ih =>
    rw [List.cons_append, List.infix_cons_iff] at h
    rcases h with h | h
    · exact .inl (hstop (x := d :: x) h).isInfix
    · exact (ih h).imp_left List.infix_cons

/-- When all holes have been filled at once, none is left. -/
theorem not_infix_fillAtOnce (hf : f ∈ fillings)
    (hfillings : ∀ g ∈ fillings, IsHole mark g.hole ∧ Spares mark f.hole g.value) :
    ¬ f.hole <:+: fillAtOnce fillings cs := by
  obtain ⟨name, hhole, hname⟩ := (hfillings f hf).1
  rw [hhole] at hfillings ⊢
  induction cs using fillAtOnce.induct fillings with
  | case1 =>
    rw [fillAtOnce_nil, List.infix_nil]
    exact List.cons_ne_nil _ _
  | case2 c rest g hfind ih =>
    rw [fillAtOnce_of_find?_eq_some hfind]
    have hspares := (hfillings g (List.mem_of_find?_eq_some hfind)).2
    exact fun h => ih (infix_of_infix_append hspares.mark_not_mem h)
  | case3 c rest hfind ih =>
    rw [fillAtOnce_of_find?_eq_none hfind, List.infix_cons_iff, not_or]
    refine ⟨fun hprefix => ?_, ih⟩
    rw [List.cons_prefix_cons, prefix_fillAtOnce_iff hname fun g hg => ⟨(hfillings g hg).1, (hfillings g hg).2.tail⟩,
      ← List.cons_prefix_cons, ← hhole, ← List.isPrefixOf_iff_prefix] at hprefix
    exact List.find?_eq_none.1 hfind f hf hprefix

/-! ### Kinds of characters -/

/-- What values without characters of a kind are put into the holes does not matter for these characters. -/
theorem filter_fillAtOnce {p : Char → Bool} (h : ∀ f ∈ fillings, f.value.filter p = []) :
    (fillAtOnce fillings cs).filter p = (fillAtOnce (fillings.map ({ · with value := [] })) cs).filter p := by
  have hfind (cs : List Char) : (fillings.map ({ · with value := [] })).find? (·.hole.isPrefixOf cs) =
      (fillings.find? (·.hole.isPrefixOf cs)).map ({ · with value := [] }) := List.find?_map ..
  induction cs using fillAtOnce.induct fillings with
  | case1 => rw [fillAtOnce_nil, fillAtOnce_nil]
  | case2 c rest f hfirst ih =>
    have hbare := hfind (c :: rest)
    rw [hfirst] at hbare
    rw [fillAtOnce_of_find?_eq_some hfirst, fillAtOnce_of_find?_eq_some hbare, List.filter_append,
      h f (List.mem_of_find?_eq_some hfirst), ih]
    rfl
  | case3 c rest hfirst ih =>
    have hbare := hfind (c :: rest)
    rw [hfirst] at hbare
    rw [fillAtOnce_of_find?_eq_none hfirst, fillAtOnce_of_find?_eq_none hbare, List.filter_cons, List.filter_cons,
      ih]

end NodeVolumes.Text
