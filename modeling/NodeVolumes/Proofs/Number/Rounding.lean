import Mathlib.Algebra.Order.Field.Power
import Mathlib.Algebra.Order.Field.Rat
import Mathlib.Tactic.Linarith
import Mathlib.Tactic.NormNum
import Mathlib.Tactic.Positivity
import Mathlib.Tactic.Ring
import NodeVolumes.Proofs.Number.Binary64

/-! # Rounding to double precision

A positive number is rounded on a grid: the multiples of the last bit that it keeps. The grid is the coarser the
greater the number is, and between two powers of two there is only one of them.

* `exponent_spec`: the exponent of a number is that of the power of two below it.
* `rounded_mono`: rounding keeps the order.
* `IsFormatted`: the numbers of the format. They are what rounding gives (`isFormatted_of_nearest`), and it leaves
  them as they are (`IsFormatted.nearest_eq`). -/

namespace NodeVolumes.Binary64

variable {a b q r : Rat} {e f n : Int}

/-! ### Rounding to whole numbers -/

theorem floor_le_roundHalfEven (q : Rat) : q.floor ≤ roundHalfEven q := by
  unfold roundHalfEven
  dsimp only
  split_ifs <;> omega

theorem roundHalfEven_le_floor_add_one (q : Rat) : roundHalfEven q ≤ q.floor + 1 := by
  unfold roundHalfEven
  dsimp only
  split_ifs <;> omega

theorem roundHalfEven_intCast (n : Int) : roundHalfEven n = n := by
  unfold roundHalfEven
  dsimp only
  rw [Rat.floor_intCast, sub_self, if_pos (by norm_num)]

theorem roundHalfEven_mono (h : a ≤ b) : roundHalfEven a ≤ roundHalfEven b := by
  rcases Int.lt_or_eq_of_le (Rat.floor_monotone h) with hlt | heq
  · calc roundHalfEven a ≤ a.floor + 1 := roundHalfEven_le_floor_add_one a
      _ ≤ b.floor := hlt
      _ ≤ roundHalfEven b := floor_le_roundHalfEven b
  · -- between the same two whole numbers the one with the greater part is not the one that goes down
    unfold roundHalfEven
    rw [← heq]
    dsimp only
    split_ifs <;> linarith

theorem roundHalfEven_le (h : q ≤ n) : roundHalfEven q ≤ n := by
  rw [← roundHalfEven_intCast n]
  exact roundHalfEven_mono h

/-! ### Exponents -/

theorem two_zpow_le_two_zpow (h : e ≤ f) : (2 : Rat) ^ e ≤ 2 ^ f := zpow_le_zpow_right₀ (by norm_num) h

theorem two_zpow_lt_two_zpow_iff : (2 : Rat) ^ e < 2 ^ f ↔ e < f := zpow_lt_zpow_iff_right₀ (by norm_num)

theorem log2_spec {n : Nat} (h : n ≠ 0) :
    (2 : Rat) ^ (n.log2 : Int) ≤ n ∧ (n : Rat) < 2 ^ ((n.log2 : Int) + 1) := by
  constructor
  · rw [zpow_natCast]
    exact_mod_cast Nat.log2_self_le h
  · rw [show (n.log2 : Int) + 1 = ((n.log2 + 1 : Nat) : Int) by push_cast; rfl, zpow_natCast]
    exact_mod_cast Nat.lt_log2_self

/-- A positive number lies between two powers of two: those of its exponent and of the one above. -/
theorem exponent_spec (hq : 0 < q) : (2 : Rat) ^ exponent q ≤ q ∧ q < 2 ^ (exponent q + 1) := by
  have hnum : 0 < q.num := Rat.num_pos.2 hq
  have hden : (0 : Rat) < q.den := by exact_mod_cast q.den_pos
  have hfraction : (q.num.natAbs : Rat) / q.den = q := by
    conv_rhs => rw [← Rat.num_div_den q]
    rw [← Int.cast_natCast, Int.natAbs_of_nonneg hnum.le]
  obtain ⟨hnumLow, hnumHigh⟩ := log2_spec (n := q.num.natAbs) (by omega)
  obtain ⟨hdenLow, hdenHigh⟩ := log2_spec q.den_nz
  unfold exponent
  generalize (q.num.natAbs.log2 : Int) = k at *
  generalize (q.den.log2 : Int) = l at *
  have hlow : (2 : Rat) ^ (k - l - 1) < q := by
    rw [← hfraction, sub_sub, zpow_sub₀ two_ne_zero]
    exact div_lt_div₀' hnumLow hdenHigh (by exact_mod_cast Int.natAbs_pos.2 hnum.ne') hden
  have hhigh : q < (2 : Rat) ^ (k - l + 1) := by
    rw [← hfraction, sub_add_eq_add_sub, zpow_sub₀ two_ne_zero]
    exact div_lt_div₀ hnumHigh hdenLow (by positivity) (by positivity)
  dsimp only
  split_ifs with h
  · exact ⟨h, hhigh⟩
  · exact ⟨hlow.le, by simpa using h⟩

theorem le_exponent_iff (hq : 0 < q) : e ≤ exponent q ↔ (2 : Rat) ^ e ≤ q := by
  obtain ⟨hle, hlt⟩ := exponent_spec hq
  constructor
  · exact fun h => (two_zpow_le_two_zpow h).trans hle
  · intro h
    have := two_zpow_lt_two_zpow_iff.1 (h.trans_lt hlt)
    omega

theorem exponent_mono (ha : 0 < a) (h : a ≤ b) : exponent a ≤ exponent b :=
  (le_exponent_iff (ha.trans_le h)).2 ((exponent_spec ha).1.trans h)

theorem lastBit_mono (ha : 0 < a) (h : a ≤ b) : lastBit a ≤ lastBit b := by
  have := exponent_mono ha h
  unfold lastBit
  omega

/-- A positive number has at most 53 bits down to the last one that it keeps. -/
theorem lt_two_zpow_lastBit (hq : 0 < q) : q < 2 ^ (lastBit q + 53) := by
  refine (exponent_spec hq).2.trans_le (two_zpow_le_two_zpow ?_)
  unfold lastBit
  omega

/-! ### Grids -/

/-- A number on a grid: a multiple of a power of two. -/
def OnGrid (e : Int) (q : Rat) : Prop := ∃ n : Int, q = n * 2 ^ e

theorem OnGrid.of_le (h : OnGrid f q) (hle : e ≤ f) : OnGrid e q := by
  obtain ⟨n, rfl⟩ := h
  obtain ⟨k, rfl⟩ := Int.le.dest hle
  refine ⟨n * 2 ^ k, ?_⟩
  rw [zpow_add₀ two_ne_zero, zpow_natCast]
  push_cast
  ring

/-- The number next to a rational on a grid. -/
def roundTo (e : Int) (q : Rat) : Rat := roundHalfEven (q / 2 ^ e) * 2 ^ e

theorem roundTo_mono (e : Int) (h : a ≤ b) : roundTo e a ≤ roundTo e b := by
  have hscaled : a / 2 ^ e ≤ b / 2 ^ e := div_le_div_of_nonneg_right h (by positivity)
  exact mul_le_mul_of_nonneg_right (by exact_mod_cast roundHalfEven_mono hscaled) (by positivity)

theorem OnGrid.roundTo_eq (h : OnGrid e q) : roundTo e q = q := by
  obtain ⟨n, rfl⟩ := h
  unfold roundTo
  rw [mul_div_cancel_right₀ _ (by positivity), roundHalfEven_intCast]

theorem OnGrid.le_roundTo (h : OnGrid e r) (hle : r ≤ q) : r ≤ roundTo e q :=
  h.roundTo_eq ▸ roundTo_mono e hle

theorem OnGrid.roundTo_le (h : OnGrid e r) (hle : q ≤ r) : roundTo e q ≤ r :=
  h.roundTo_eq ▸ roundTo_mono e hle

/-! ### Rounding positive numbers -/

/-- A positive number, rounded to the last bit that it keeps. -/
def rounded (q : Rat) : Rat := roundTo (lastBit q) q

theorem nearest_of_pos (hq : 0 < q) :
    nearest q = if limit ≤ rounded q then infinite false else finite (rounded q) := by
  have hnonneg : ¬q < 0 := not_lt.2 hq.le
  unfold nearest
  simp only [hq.ne', hnonneg, if_false, decide_false]
  rfl

/-- Rounding keeps the order. -/
theorem rounded_mono (ha : 0 < a) (h : a ≤ b) : rounded a ≤ rounded b := by
  have hb : 0 < b := ha.trans_le h
  rcases Int.lt_or_eq_of_le (lastBit_mono ha h) with hlt | heq
  · -- a power of two lies between the two numbers, and it is on both grids
    have hbit : lastBit b = exponent b - 52 := by
      unfold lastBit at hlt ⊢
      omega
    have hpower : OnGrid (lastBit b) (2 ^ exponent b) := by
      refine ⟨2 ^ 52, ?_⟩
      rw [hbit, zpow_sub₀ two_ne_zero]
      push_cast
      exact (mul_div_cancel₀ _ (by norm_num)).symm
    have hbelow : a ≤ 2 ^ exponent b := by
      refine (lt_two_zpow_lastBit ha).le.trans (two_zpow_le_two_zpow ?_)
      omega
    calc rounded a ≤ 2 ^ exponent b := (hpower.of_le hlt.le).roundTo_le hbelow
      _ ≤ rounded b := hpower.le_roundTo (exponent_spec hb).1
  · unfold rounded
    rw [heq]
    exact roundTo_mono _ h

theorem rounded_nonneg (hq : 0 < q) : 0 ≤ rounded q :=
  OnGrid.le_roundTo ⟨0, by norm_num⟩ hq.le

/-! ### Numbers of the format -/

/-- The numbers of the format that are not negative: at most 53 bits, none of them below the least bit of the
format, and all below the limit of its range. -/
def IsFormatted (q : Rat) : Prop := q < limit ∧ ∃ (m : Nat) (e : Int), m ≤ 2 ^ 53 ∧ -1074 ≤ e ∧ q = m * 2 ^ e

theorem IsFormatted.nonneg (h : IsFormatted q) : 0 ≤ q := by
  obtain ⟨-, m, e, -, -, rfl⟩ := h
  positivity

theorem IsFormatted.onGrid (h : IsFormatted q) (hq : 0 < q) : OnGrid (lastBit q) q := by
  obtain ⟨-, m, e, hm, he, rfl⟩ := h
  rcases Nat.lt_or_eq_of_le hm with hlt | rfl
  · have hpow : (m : Rat) * 2 ^ e < 2 ^ (e + 53) := by
      rw [zpow_add₀ two_ne_zero, mul_comm]
      exact mul_lt_mul_of_pos_left (by exact_mod_cast hlt) (by positivity)
    have hexp := two_zpow_lt_two_zpow_iff.1 ((exponent_spec hq).1.trans_lt hpow)
    refine OnGrid.of_le ⟨m, rfl⟩ ?_
    unfold lastBit
    omega
  · -- with one bit more than the format keeps, it is a power of two
    have hpow : ((2 ^ 53 : Nat) : Rat) * 2 ^ e = 2 ^ (e + 53) := by
      rw [zpow_add₀ two_ne_zero, mul_comm]
      norm_num
    rw [hpow] at hq ⊢
    have hexp := two_zpow_lt_two_zpow_iff.1 ((exponent_spec hq).1.trans_lt
      (two_zpow_lt_two_zpow_iff.2 (Int.lt_succ (e + 53))))
    have hpoint : OnGrid (e + 53) (2 ^ (e + 53)) := ⟨1, by norm_num⟩
    refine hpoint.of_le ?_
    unfold lastBit
    omega

/-- A number of the format is not changed by rounding. -/
theorem IsFormatted.nearest_eq (h : IsFormatted q) : nearest q = finite q := by
  rcases h.nonneg.eq_or_lt with rfl | hq
  · rfl
  · have hround : rounded q = q := (h.onGrid hq).roundTo_eq
    rw [nearest_of_pos hq, hround, if_neg (not_le.2 h.1)]

/-- What rounding gives is a number of the format. -/
theorem isFormatted_of_nearest (hq : 0 ≤ q) (h : nearest q = finite r) : IsFormatted r := by
  rcases hq.eq_or_lt with rfl | hq
  · cases h
    exact ⟨by decide +kernel, 0, 0, by norm_num, by norm_num, by norm_num⟩
  · rw [nearest_of_pos hq] at h
    split_ifs at h with hlimit
    cases h
    refine ⟨not_le.1 hlimit, (roundHalfEven (q / 2 ^ lastBit q)).toNat, lastBit q, ?_, ?_, ?_⟩
    · have hscaled : q / 2 ^ lastBit q ≤ ((2 ^ 53 : Int) : Rat) := by
        rw [div_le_iff₀ (by positivity)]
        refine (lt_two_zpow_lastBit hq).le.trans_eq ?_
        rw [zpow_add₀ two_ne_zero, mul_comm]
        norm_num
      have := roundHalfEven_le hscaled
      omega
    · unfold lastBit
      omega
    · have hnonneg := roundHalfEven_nonneg (div_nonneg hq.le (unit_pos q).le)
      have hcast : (((roundHalfEven (q / 2 ^ lastBit q)).toNat : Nat) : Rat) =
          (roundHalfEven (q / 2 ^ lastBit q) : Rat) := by
        rw [← Int.cast_natCast, Int.toNat_of_nonneg hnonneg]
      rw [hcast]
      rfl

/-! ### Whole numbers of the format -/

theorem isFormatted_natCast {n : Nat} (h : n ≤ 2 ^ 53) : IsFormatted n := by
  have hlimit : ((2 ^ 53 : Nat) : Rat) < limit := by decide +kernel
  exact ⟨lt_of_le_of_lt (by exact_mod_cast h) hlimit, n, 0, h, by norm_num, by simp⟩

/-- A number of the format with bits behind its point has at most 53 bits before it. -/
theorem IsFormatted.whole_or_le (h : IsFormatted q) : (∃ m k : Nat, m ≤ 2 ^ 53 ∧ q = m * 2 ^ k) ∨ q ≤ 2 ^ 53 := by
  obtain ⟨-, m, e, hm, -, rfl⟩ := h
  rcases le_or_gt 0 e with he | he
  · obtain ⟨k, rfl⟩ := Int.eq_ofNat_of_zero_le he
    exact .inl ⟨m, k, hm, by rw [zpow_natCast]⟩
  · have hone : (2 : Rat) ^ e ≤ 1 := zpow_le_one_of_nonpos₀ (by norm_num) he.le
    refine .inr ((mul_le_of_le_one_right (by positivity) hone).trans ?_)
    exact_mod_cast hm

theorem IsFormatted.exists_nat (h : IsFormatted n) : ∃ m k : Nat, m ≤ 2 ^ 53 ∧ n = m * 2 ^ k := by
  have hnonneg : 0 ≤ n := by exact_mod_cast h.nonneg
  rcases h.whole_or_le with ⟨m, k, hm, hn⟩ | hle
  · exact ⟨m, k, hm, by exact_mod_cast hn⟩
  · have hle' : n ≤ 2 ^ 53 := by exact_mod_cast hle
    exact ⟨n.toNat, 0, by omega, by simpa using (Int.toNat_of_nonneg hnonneg).symm⟩

/-- A number of the format, rounded up to a whole one, is a number of the format. -/
theorem IsFormatted.ceil (h : IsFormatted q) : IsFormatted q.ceil := by
  rcases h.whole_or_le with ⟨m, k, -, hq⟩ | hle
  · have hwhole : q = ((m * 2 ^ k : Int) : Rat) := by exact_mod_cast hq
    rwa [hwhole, Rat.ceil_intCast, ← hwhole]
  · have hceil : q.ceil ≤ 2 ^ 53 := Rat.ceil_le_iff.2 (by exact_mod_cast hle)
    have hnonneg : 0 ≤ q.ceil := by exact_mod_cast h.nonneg.trans Rat.le_ceil
    obtain ⟨k, hk⟩ := Int.eq_ofNat_of_zero_le hnonneg
    rw [hk, Int.cast_natCast]
    exact isFormatted_natCast (by omega)

theorem IsFormatted.div_two_pow (h : IsFormatted n) {k : Nat} (hk : k ≤ 1074) :
    IsFormatted (n / 2 ^ k) := by
  have hlimit := h.1
  obtain ⟨m, j, hm, hn⟩ := h.exists_nat
  refine ⟨lt_of_le_of_lt (div_le_self h.nonneg (one_le_pow₀ (by norm_num))) hlimit, m, j - k, hm, by omega, ?_⟩
  rw [hn, zpow_sub₀ two_ne_zero, zpow_natCast, zpow_natCast]
  push_cast
  rw [mul_div_assoc]

end NodeVolumes.Binary64
