import NodeVolumes.Proofs.Number.Rounding

/-! # The order of numbers of double precision

A sum, a product or a quotient is rounded, and rounding keeps the order. So each operation keeps the order of numbers
that are not negative, also past the range of the format, where the greater number may become infinite first.

* `Ascending`: two numbers in their order, neither of them negative.
* `ascending_nearest`: rounding keeps it, and `Ascending.add`, `Ascending.div`, `Ascending.ceil` and
  `ascending_mul` say the same of the operations.
* `Ascending.toInt64_le`: the words that the numbers are cut to are in this order, too. -/

namespace NodeVolumes.Binary64

variable {a b c d : Rat} {x y x' y' : Binary64}

/-- Two numbers in ascending order, neither of them negative. -/
inductive Ascending : Binary64 → Binary64 → Prop
  | finite {a b : Rat} (nonneg : 0 ≤ a) (le : a ≤ b) : Ascending (.finite a) (.finite b)
  | bounded {a : Rat} (nonneg : 0 ≤ a) : Ascending (.finite a) (.infinite false)
  | infinite : Ascending (.infinite false) (.infinite false)

theorem Ascending.exists_finite (h : Ascending x (.finite b)) : ∃ a, x = .finite a ∧ 0 ≤ a ∧ a ≤ b := by
  cases h with
  | finite nonneg le => exact ⟨_, rfl, nonneg, le⟩

theorem Ascending.infinity (h : Ascending x y) : Ascending x (.infinite false) := by
  cases h with
  | finite nonneg le => exact .bounded nonneg
  | bounded nonneg => exact .bounded nonneg
  | infinite => exact .infinite

/-! ### Rounding -/

/-- Rounding keeps the order. -/
theorem ascending_nearest (ha : 0 ≤ a) (h : a ≤ b) : Ascending (nearest a) (nearest b) := by
  rcases ha.eq_or_lt with rfl | ha
  · rcases h.eq_or_lt with rfl | hb
    · exact .finite le_rfl le_rfl
    · rw [nearest_of_pos hb]
      split_ifs
      · exact .bounded le_rfl
      · exact .finite le_rfl (rounded_nonneg hb)
  · have hle := rounded_mono ha h
    rw [nearest_of_pos ha, nearest_of_pos (ha.trans_le h)]
    split_ifs with hlimit hlimit'
    · exact .infinite
    · exact absurd (hlimit.trans hle) hlimit'
    · exact .bounded (rounded_nonneg ha)
    · exact .finite (rounded_nonneg ha) hle

theorem exists_nearest_eq (ha : 0 ≤ a) (h : a ≤ b) (hb : IsFormatted b) :
    ∃ r, nearest a = .finite r ∧ IsFormatted r ∧ r ≤ b := by
  obtain ⟨r, hr, -, hle⟩ := (hb.nearest_eq ▸ ascending_nearest ha h).exists_finite
  exact ⟨r, hr, isFormatted_of_nearest ha hr, hle⟩

/-! ### Operations -/

theorem ascending_mul (ha : 0 ≤ a) (hab : a ≤ b) (hc : 0 ≤ c) (hcd : c ≤ d) :
    Ascending (.finite a * .finite c) (.finite b * .finite d) :=
  ascending_nearest (mul_nonneg ha hc) (mul_le_mul hab hcd hc (ha.trans hab))

theorem isFormatted_of_mul {r : Rat} (hx : x.isNegative = false) (hy : y.isNegative = false)
    (h : x * y = .finite r) : IsFormatted r := by
  have h' : mul x y = .finite r := h
  unfold mul at h'
  split at h'
  · exact isFormatted_of_nearest (mul_nonneg (isNegative_finite_iff.1 hx) (isNegative_finite_iff.1 hy)) h'
  · cases h'
  · cases h'
  · split at h' <;> cases h'

theorem Ascending.add (h : Ascending x y) (h' : Ascending x' y') : Ascending (x + x') (y + y') := by
  cases h with
  | finite ha hab =>
    cases h' with
    | finite ha' hab' => exact ascending_nearest (add_nonneg ha ha') (add_le_add hab hab')
    | bounded ha' => exact (ascending_nearest (add_nonneg ha ha') le_rfl).infinity
    | infinite => exact .infinite
  | bounded ha =>
    cases h' with
    | finite ha' => exact (ascending_nearest (add_nonneg ha ha') le_rfl).infinity
    | bounded ha' => exact (ascending_nearest (add_nonneg ha ha') le_rfl).infinity
    | infinite => exact .infinite
  | infinite => cases h' <;> exact .infinite

theorem Ascending.div (h : Ascending x y) (hd : 0 < d) : Ascending (x / .finite d) (y / .finite d) := by
  have hfinite (q : Rat) : Binary64.finite q / .finite d = nearest (q / d) := if_neg hd.ne'
  have hinfinite : Binary64.infinite false / .finite d = .infinite false := by
    show Binary64.infinite (false != decide (d < 0)) = _
    rw [decide_eq_false (not_lt.2 hd.le)]
    rfl
  cases h with
  | finite ha hab =>
    rw [hfinite, hfinite]
    exact ascending_nearest (div_nonneg ha hd.le) (div_le_div_of_nonneg_right hab hd.le)
  | bounded ha =>
    rw [hfinite, hinfinite]
    exact (ascending_nearest (div_nonneg ha hd.le) le_rfl).infinity
  | infinite =>
    rw [hinfinite]
    exact .infinite

theorem Ascending.ceil (h : Ascending x y) : Ascending x.ceil y.ceil := by
  have hnonneg {a : Rat} (ha : 0 ≤ a) : (0 : Rat) ≤ a.ceil := ha.trans Rat.le_ceil
  cases h with
  | @finite a b ha hab =>
    refine .finite (hnonneg ha) ?_
    exact_mod_cast Rat.ceil_le_iff.2 (hab.trans Rat.le_ceil)
  | bounded ha => exact .bounded (hnonneg ha)
  | infinite => exact .infinite

theorem Ascending.atMost (h : Ascending x y) {bound : Rat} (hbound : 0 ≤ bound) :
    ∃ a b, x.atMost bound = .finite a ∧ y.atMost bound = .finite b ∧ 0 ≤ a ∧ a ≤ b := by
  have hfinite (q : Rat) : (Binary64.finite q).atMost bound = .finite (min q bound) := by
    unfold Binary64.atMost
    dsimp only
    rw [← apply_ite Binary64.finite, min_def]
  cases h with
  | finite ha hab =>
    exact ⟨_, _, hfinite _, hfinite _, le_min ha hbound, min_le_min_right bound hab⟩
  | bounded ha => exact ⟨_, _, hfinite _, rfl, le_min ha hbound, min_le_right _ _⟩
  | infinite => exact ⟨_, _, rfl, rfl, hbound, le_rfl⟩

/-! ### Words -/

theorem toInt64_of_nonneg (ha : 0 ≤ a) : (Binary64.finite a).toInt64 = min maxInt64 a.floor := by
  have hfloor : 0 ≤ a.floor := Rat.le_floor_iff.2 (by simpa using ha)
  unfold toInt64
  simp only [not_lt.2 ha, if_false]
  unfold minInt64 maxInt64
  omega

theorem toInt64_intCast {n : Int} (hn : 0 ≤ n) (hmax : n ≤ maxInt64) : (Binary64.finite n).toInt64 = n := by
  rw [toInt64_of_nonneg (by exact_mod_cast hn), Rat.floor_intCast, min_eq_right hmax]

/-- The words that numbers are cut to are in their order. -/
theorem Ascending.toInt64_le (h : Ascending x y) : x.toInt64 ≤ y.toInt64 := by
  cases h with
  | finite ha hab =>
    rw [toInt64_of_nonneg ha, toInt64_of_nonneg (ha.trans hab)]
    exact min_le_min_left maxInt64 (Rat.floor_monotone hab)
  | bounded ha =>
    rw [toInt64_of_nonneg ha]
    exact min_le_left maxInt64 _
  | infinite => rfl

end NodeVolumes.Binary64
