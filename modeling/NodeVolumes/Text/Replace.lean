/-! # Replacing parts of a text

* `replaceAll` puts a text in place of every occurrence of a pattern, from left to right and without
  overlap.
* `replaceAll_of_not_infix`: a text without the pattern stays as it is. -/

namespace NodeVolumes.Text

/-- The characters with every occurrence of a pattern replaced, from left to right. An empty pattern
occurs nowhere. -/
def replaceAll (pattern new : List Char) (cs : List Char) : List Char :=
  if _h : pattern = [] then cs
  else match cs with
    | [] => []
    | c :: rest =>
      if pattern <+: c :: rest then
        new ++ replaceAll pattern new (rest.drop (pattern.length - 1))
      else c :: replaceAll pattern new rest
termination_by cs.length
decreasing_by
  · simp only [List.length_drop, List.length_cons]; omega
  · simp

theorem replaceAll_of_not_infix {pattern new cs : List Char} (h : ¬ pattern <:+: cs) :
    replaceAll pattern new cs = cs := by
  induction cs with
  | nil => unfold replaceAll; split <;> rfl
  | cons c rest ih =>
    unfold replaceAll
    split
    · rfl
    · have hp : ¬ pattern <+: c :: rest := fun hp => h hp.isInfix
      simp only [hp, ↓reduceIte]
      rw [ih fun hr => h (hr.trans (List.infix_cons (List.infix_refl rest)))]

end NodeVolumes.Text
