import Mathlib.Algebra.Order.Field.Rat
import NodeVolumes.Number.Decimal

/-! # Signs of numbers of double precision

Rounding never makes a negative number out of one that is not negative, so no operation here does.

* `Binary64.isNegative_nearest`: the nearest number of a rational.
* `Binary64.isNegative_mul`, `isNegative_add`, `isNegative_div`, `isNegative_tenPow`: the operations.
* `Binary64.toInt64_nonneg`: the word that a number is cut to.
* `Decimal.value_nonneg_of_unsigned?`: the value of a numeral without sign. -/

namespace NodeVolumes
namespace Binary64

theorem isNegative_finite_iff {q : Rat} : (finite q).isNegative = false ↔ 0 ≤ q := by
  simp [isNegative]

/-! ### Rounding -/

theorem roundHalfEven_nonneg {q : Rat} (h : 0 ≤ q) : 0 ≤ roundHalfEven q := by
  have hfloor : 0 ≤ q.floor := Rat.le_floor_iff.2 (by simpa using h)
  unfold roundHalfEven
  dsimp only
  split
  · exact hfloor
  · split
    · omega
    · split <;> omega

theorem unit_pos (q : Rat) : (0 : Rat) < 2 ^ lastBit q := Rat.zpow_pos (by decide)

/-- The nearest number of what is not negative is not negative. -/
theorem isNegative_nearest {q : Rat} (h : 0 ≤ q) : (nearest q).isNegative = false := by
  have hneg : ¬q < 0 := Rat.not_lt.2 h
  have hunit : (0 : Rat) ≤ 2 ^ lastBit q := Rat.le_of_lt (unit_pos q)
  have hround : (0 : Rat) ≤ (roundHalfEven (q / 2 ^ lastBit q) : Rat) :=
    Rat.intCast_nonneg.2 (roundHalfEven_nonneg (div_nonneg h hunit))
  unfold nearest
  simp only [hneg, if_false]
  split
  · rfl
  · split
    · rfl
    · exact isNegative_finite_iff.2 (Rat.mul_nonneg hround hunit)

/-! ### Operations -/

variable {a b : Binary64}

theorem isNegative_mul (ha : a.isNegative = false) (hb : b.isNegative = false) :
    (a * b).isNegative = false := by
  show (mul a b).isNegative = false
  unfold mul
  split
  · exact isNegative_nearest (Rat.mul_nonneg (isNegative_finite_iff.1 ha) (isNegative_finite_iff.1 hb))
  · rfl
  · rfl
  · split
    · rfl
    · show (a.isNegative != b.isNegative) = false
      rw [ha, hb]
      rfl

theorem isNegative_add (ha : a.isNegative = false) (hb : b.isNegative = false) :
    (a + b).isNegative = false := by
  show (add a b).isNegative = false
  unfold add
  split
  · exact isNegative_nearest (Rat.add_nonneg (isNegative_finite_iff.1 ha) (isNegative_finite_iff.1 hb))
  · rfl
  · rfl
  · split
    · exact ha
    · rfl
  · exact ha
  · exact hb

theorem isNegative_div (ha : a.isNegative = false) (hb : b.isNegative = false) :
    (a / b).isNegative = false := by
  show (div a b).isNegative = false
  unfold div
  split
  · split
    · rfl
    · exact isNegative_nearest (div_nonneg (isNegative_finite_iff.1 ha) (isNegative_finite_iff.1 hb))
  · rfl
  · rfl
  · rfl
  case h_5 negative q =>
    have hq : ¬q < 0 := Rat.not_lt.2 (isNegative_finite_iff.1 hb)
    cases negative with
    | true => cases ha
    | false => simpa [isNegative] using hq
  · rfl

theorem isNegative_ceil (ha : a.isNegative = false) : a.ceil.isNegative = false := by
  cases a with
  | finite q =>
    have hle : (0 : Rat) ≤ q.ceil := Rat.le_trans (isNegative_finite_iff.1 ha) Rat.le_ceil
    exact isNegative_finite_iff.2 hle
  | infinite negative => exact ha
  | undefined => rfl

theorem isNegative_atMost {bound : Rat} (ha : a.isNegative = false) (hbound : 0 ≤ bound) :
    (a.atMost bound).isNegative = false := by
  cases a with
  | finite q =>
    unfold atMost
    dsimp only
    split
    · exact ha
    · exact isNegative_finite_iff.2 hbound
  | infinite negative =>
    cases negative with
    | true => cases ha
    | false => exact isNegative_finite_iff.2 hbound
  | undefined => exact isNegative_finite_iff.2 hbound

theorem isNegative_squarings (n : Nat) (ha : a.isNegative = false) (hb : b.isNegative = false) :
    (tenPow.squarings n a b).isNegative = false := by
  induction n, a, b using tenPow.squarings.induct with
  | case1 n a b hlast =>
    unfold tenPow.squarings
    rw [dif_pos hlast]
    split
    · exact isNegative_mul hb ha
    · exact hb
  | case2 n a b result hmore ih =>
    have hresult : result.isNegative = false := by
      show (if n % 2 = 1 then b * a else b).isNegative = false
      split
      · exact isNegative_mul hb ha
      · exact hb
    unfold tenPow.squarings
    rw [dif_neg hmore]
    exact ih (isNegative_mul ha ha) hresult

theorem isNegative_tenPow (power : Int) : (tenPow power).isNegative = false := by
  have hpositive : (tenPow.squarings power.natAbs (finite 10) (finite 1)).isNegative = false :=
    isNegative_squarings _ (by decide) (by decide)
  unfold tenPow
  dsimp only
  split
  · exact isNegative_div (by decide) hpositive
  · exact hpositive

/-! ### Words -/

theorem toInt64_nonneg (ha : a.isNegative = false) : 0 ≤ a.toInt64 := by
  cases a with
  | finite q =>
    have hq : 0 ≤ q := isNegative_finite_iff.1 ha
    have hfloor : 0 ≤ q.floor := Rat.le_floor_iff.2 (by simpa using hq)
    unfold toInt64
    simp only [Rat.not_lt.2 hq, if_false]
    unfold minInt64 maxInt64
    omega
  | infinite negative =>
    cases negative with
    | true => cases ha
    | false => decide
  | undefined => decide

end Binary64

namespace Decimal

/-- A numeral that is read without a sign does not stand for a negative number. -/
theorem value_nonneg_of_unsigned? {cs : List Char} {d : Decimal} (h : unsigned? cs = some d) :
    0 ≤ d.value := by
  unfold unsigned? at h
  dsimp only at h
  split at h
  case isTrue =>
    cases h
    unfold value
    simp only [Bool.false_eq_true, if_false]
    exact Rat.mul_nonneg (Rat.natCast_nonneg ..) (Rat.le_of_lt (Rat.zpow_pos (by decide)))
  case isFalse => cases h

end Decimal
end NodeVolumes
