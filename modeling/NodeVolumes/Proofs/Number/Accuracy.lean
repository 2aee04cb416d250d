import Mathlib.Algebra.Order.Ring.Pow
import Mathlib.Tactic.IntervalCases
import NodeVolumes.Proofs.Number.Order

/-! # The accuracy of double precision

A rounding moves a number by half a bit of those that it keeps, so by at most one part in `2 ^ 53`, unless the number
is too small to keep them all or rounds past the range. Roundings one after another multiply their errors.

* `Within k x r`: the error of `k` roundings, as a relation between two numbers. It is kept by products and reciprocals,
  and one error after another adds up.
* `near_nearest`: one rounding, and `near_mul` for a product of two numbers that have been rounded before.
* `near_squarings`: a power by repeated squaring has the error of one rounding for each of its factors.
* `tenPow_of_le`, `tenPow_of_gt`, `tenPow_neg_of_le`, `tenPow_neg_of_gt`: the powers of ten, which end with the range
  of the format. -/

namespace NodeVolumes.Binary64

variable {a b q r s t x y z : Rat} {e m : Int} {i j k n : Nat} {u v : Binary64}

/-! ### Relative errors -/

/-- What one rounding leaves at least of a number. -/
def slack : Rat := 1 - 1 / 2 ^ 53

theorem slack_pos : 0 < slack := by norm_num [slack]

theorem slack_le_one : slack ≤ 1 := by norm_num [slack]

theorem slack_pow_pos (k : Nat) : 0 < slack ^ k := pow_pos slack_pos k

theorem slack_pow_le_one (k : Nat) : slack ^ k ≤ 1 := pow_le_one₀ slack_pos.le slack_le_one

theorem slack_pow_anti (h : j ≤ k) : slack ^ k ≤ slack ^ j := pow_le_pow_of_le_one slack_pos.le slack_le_one h

/-- The errors of a few roundings add up to little more than their sum. -/
theorem le_slack_pow (k : Nat) : 1 - k / 2 ^ 53 ≤ slack ^ k := by
  have h := one_add_mul_le_pow (show (-2 : Rat) ≤ -(1 / 2 ^ 53) by norm_num) k
  calc 1 - (k : Rat) / 2 ^ 53 = 1 + k * -(1 / 2 ^ 53) := by ring
    _ ≤ (1 + -(1 / 2 ^ 53)) ^ k := h
    _ = slack ^ k := by rw [slack, sub_eq_add_neg]

theorem half_le_slack_pow (hk : k ≤ 310) : 1 / 2 ≤ slack ^ k :=
  calc (1 : Rat) / 2 ≤ 1 - (310 : Nat) / 2 ^ 53 := by norm_num
    _ ≤ slack ^ 310 := le_slack_pow 310
    _ ≤ slack ^ k := slack_pow_anti hk

/-- Two numbers that lie no further apart than `k` roundings can bring them. -/
structure Within (k : Nat) (x r : Rat) : Prop where
  below : slack ^ k * x ≤ r
  above : slack ^ k * r ≤ x

namespace Within

theorem refl (x : Rat) : Within 0 x x := ⟨by simp, by simp⟩

theorem mono (h : Within j x r) (hx : 0 ≤ x) (hr : 0 ≤ r) (hjk : j ≤ k) : Within k x r :=
  ⟨(mul_le_mul_of_nonneg_right (slack_pow_anti hjk) hx).trans h.below,
    (mul_le_mul_of_nonneg_right (slack_pow_anti hjk) hr).trans h.above⟩

theorem trans (h : Within i x y) (h' : Within j y z) : Within (i + j) x z where
  below := calc slack ^ (i + j) * x = slack ^ j * (slack ^ i * x) := by ring
    _ ≤ slack ^ j * y := mul_le_mul_of_nonneg_left h.below (slack_pow_pos j).le
    _ ≤ z := h'.below
  above := calc slack ^ (i + j) * z = slack ^ i * (slack ^ j * z) := by ring
    _ ≤ slack ^ i * y := mul_le_mul_of_nonneg_left h'.above (slack_pow_pos i).le
    _ ≤ x := h.above

/-- A product has the errors of its factors. -/
theorem mul (h : Within i a r) (h' : Within j b s) (ha : 0 ≤ a) (hb : 0 ≤ b) (hr : 0 ≤ r) (hs : 0 ≤ s) :
    Within (i + j) (a * b) (r * s) where
  below := calc slack ^ (i + j) * (a * b) = slack ^ i * a * (slack ^ j * b) := by ring
    _ ≤ r * s := mul_le_mul h.below h'.below (mul_nonneg (slack_pow_pos j).le hb) hr
  above := calc slack ^ (i + j) * (r * s) = slack ^ i * r * (slack ^ j * s) := by ring
    _ ≤ a * b := mul_le_mul h.above h'.above (mul_nonneg (slack_pow_pos j).le hs) ha

theorem one_div (h : Within k x r) (hx : 0 < x) (hr : 0 < r) : Within k (1 / x) (1 / r) where
  below := by
    rw [mul_one_div, div_le_div_iff₀ hx hr, one_mul]
    exact h.above
  above := by
    rw [mul_one_div, div_le_div_iff₀ hr hx, one_mul]
    exact h.below

theorem abs_sub_le (h : Within k x r) (hx : 0 ≤ x) (hsmall : k * (x + 1) ≤ 2 ^ 53) : |r - x| ≤ 1 := by
  have hpow := le_slack_pow k
  have hhigh : slack ^ k * r ≤ slack ^ k * (x + 1) :=
    calc slack ^ k * r ≤ x := h.above
      _ ≤ (1 - k / 2 ^ 53) * (x + 1) := by linarith
      _ ≤ slack ^ k * (x + 1) := mul_le_mul_of_nonneg_right hpow (by linarith)
  have hlow : x - 1 ≤ r :=
    calc x - 1 ≤ (1 - k / 2 ^ 53) * x := by
          have hk : (0 : Rat) ≤ k := k.cast_nonneg
          linarith
      _ ≤ slack ^ k * x := mul_le_mul_of_nonneg_right hpow hx
      _ ≤ r := h.below
  have hhigh' := le_of_mul_le_mul_left hhigh (slack_pow_pos k)
  exact abs_le.2 ⟨by linarith, by linarith⟩

end Within

/-! ### One rounding -/

theorem abs_roundHalfEven_sub_le (q : Rat) : |(roundHalfEven q : Rat) - q| ≤ 1 / 2 := by
  have hfloor : (q.floor : Rat) ≤ q := Rat.floor_le q
  have hnext : q < q.floor + 1 := by exact_mod_cast Rat.lt_floor_add_one q
  rw [abs_le]
  unfold roundHalfEven
  dsimp only
  split_ifs <;> push_cast <;> constructor <;> linarith

theorem abs_roundTo_sub_le (e : Int) (q : Rat) : |roundTo e q - q| ≤ 2 ^ e / 2 := by
  have hunit : (0 : Rat) < 2 ^ e := by positivity
  have hscaled : roundTo e q - q = (roundHalfEven (q / 2 ^ e) - q / 2 ^ e) * 2 ^ e := by
    unfold roundTo
    rw [sub_mul, div_mul_cancel₀ _ hunit.ne']
  calc |roundTo e q - q| = |(roundHalfEven (q / 2 ^ e) : Rat) - q / 2 ^ e| * 2 ^ e := by
        rw [hscaled, abs_mul, abs_of_pos hunit]
    _ ≤ 1 / 2 * 2 ^ e := mul_le_mul_of_nonneg_right (abs_roundHalfEven_sub_le _) hunit.le
    _ = 2 ^ e / 2 := by ring

theorem OnGrid.roundTo_eq_of_near (h : OnGrid e r) (hle : r ≤ q) (hnear : q - r < 2 ^ e / 2) : roundTo e q = r := by
  have hunit : (0 : Rat) < 2 ^ e := by positivity
  obtain ⟨m, rfl⟩ := h
  have hlow : (m : Rat) ≤ q / 2 ^ e := (le_div_iff₀ hunit).2 hle
  have hhigh : q / 2 ^ e < m + 1 / 2 := by
    rw [div_lt_iff₀ hunit]
    linarith
  have hfloor : (q / 2 ^ e).floor = m := by
    refine le_antisymm (Int.lt_add_one_iff.1 (Rat.floor_lt_iff.2 ?_)) (Rat.le_floor_iff.2 hlow)
    push_cast
    linarith
  unfold roundTo roundHalfEven
  dsimp only
  rw [hfloor, if_pos (by linarith)]

/-- The least number of the format that is written with all of its bits. -/
def leastNormal : Rat := 2 ^ (-1022 : Int)

theorem leastNormal_pos : 0 < leastNormal := by
  unfold leastNormal
  positivity

theorem leastNormal_le_one : leastNormal ≤ 1 := zpow_le_one_of_nonpos₀ (by norm_num) (by norm_num)

theorem limit_pos : 0 < limit := by
  unfold limit
  positivity

theorem lastBit_of_normal (hq : leastNormal ≤ q) : lastBit q = exponent q - 52 := by
  have hexponent : -1022 ≤ exponent q := (le_exponent_iff (leastNormal_pos.trans_le hq)).2 hq
  unfold lastBit
  omega

theorem lastBit_le (hq : 0 < q) (he : -1074 ≤ e) (h : q < 2 ^ (e + 53)) : lastBit q ≤ e := by
  have hexponent := two_zpow_lt_two_zpow_iff.1 ((exponent_spec hq).1.trans_lt h)
  unfold lastBit
  omega

theorem within_rounded (hq : leastNormal ≤ q) : Within 1 q (rounded q) := by
  have hpos := leastNormal_pos.trans_le hq
  have hhalf : (2 : Rat) ^ lastBit q / 2 ≤ q / 2 ^ 53 := by
    have hunit : (2 : Rat) ^ lastBit q = 2 ^ exponent q / 2 ^ 52 := by
      rw [lastBit_of_normal hq, zpow_sub₀ two_ne_zero]
      norm_num
    have hexponent := (exponent_spec hpos).1
    rw [hunit]
    linarith
  obtain ⟨hlow, hhigh⟩ := abs_le.1 ((abs_roundTo_sub_le (lastBit q) q).trans hhalf)
  have hlow' : q - q / 2 ^ 53 ≤ rounded q := by
    unfold rounded
    linarith
  have hhigh' : rounded q ≤ q + q / 2 ^ 53 := by
    unfold rounded
    linarith
  constructor
  · rw [pow_one, slack]
    linarith
  · rw [pow_one, slack]
    linarith

/-! ### Numbers that have been rounded -/

/-- A number of the format that is at most `k` roundings away from a rational. An infinite one stands for a rational
that is at most so far below the limit. -/
inductive Near (k : Nat) (x : Rat) : Binary64 → Prop
  | finite {r : Rat} (formatted : IsFormatted r) (within : Within k x r) : Near k x (.finite r)
  | infinite (past : slack ^ k * limit ≤ x) : Near k x (.infinite false)

/-- One rounding. -/
theorem near_nearest (hq : leastNormal ≤ q) : Near 1 q (nearest q) := by
  have hpos := leastNormal_pos.trans_le hq
  have hwithin := within_rounded hq
  have hnearest := nearest_of_pos hpos
  split_ifs at hnearest with hlimit
  · rw [hnearest]
    exact .infinite ((mul_le_mul_of_nonneg_left hlimit (slack_pow_pos 1).le).trans hwithin.above)
  · rw [hnearest]
    exact .finite (isFormatted_of_nearest hpos.le hnearest) hwithin

namespace Near

theorem of_isFormatted (h : IsFormatted q) : Near 0 q (.finite q) := .finite h (.refl q)

theorem of_within (h : Within i x y) (h' : Near j y u) : Near (i + j) x u := by
  cases h' with
  | finite formatted within => exact .finite formatted (h.trans within)
  | infinite past =>
    refine .infinite ?_
    calc slack ^ (i + j) * limit = slack ^ i * (slack ^ j * limit) := by ring
      _ ≤ slack ^ i * y := mul_le_mul_of_nonneg_left past (slack_pow_pos i).le
      _ ≤ x := h.above

theorem exists_finite (h : Near k x u) (hx : x < slack ^ k * limit) :
    ∃ r, u = .finite r ∧ IsFormatted r ∧ Within k x r := by
  cases h with
  | finite formatted within => exact ⟨_, rfl, formatted, within⟩
  | infinite past => exact absurd past (not_le.2 hx)

theorem eq_infinite (h : Near k x u) (hx : limit ≤ slack ^ k * x) : u = .infinite false := by
  cases h with
  | finite formatted within => exact absurd (hx.trans within.below) (not_le.2 formatted.1)
  | infinite past => rfl

end Near

/-- The greatest number of the format. -/
def greatest : Rat := (2 ^ 53 - 1) * 2 ^ 971

theorem isFormatted_greatest : IsFormatted greatest :=
  ⟨by decide +kernel, 2 ^ 53 - 1, 971, by norm_num, by norm_num, by decide +kernel⟩

theorem exists_nearest_of_normal (hlow : leastNormal ≤ q) (hhigh : q ≤ greatest) :
    ∃ r, nearest q = .finite r ∧ IsFormatted r ∧ Within 1 q r := by
  obtain ⟨r, hr, -, -⟩ := exists_nearest_eq (leastNormal_pos.le.trans hlow) hhigh isFormatted_greatest
  have hnear := near_nearest hlow
  rw [hr] at hnear ⊢
  cases hnear with
  | finite formatted within => exact ⟨r, rfl, formatted, within⟩

theorem nearest_of_limit_le (h : limit ≤ q) : nearest q = .infinite false := by
  have hround : rounded limit = limit := by decide +kernel
  rw [nearest_of_pos (limit_pos.trans_le h), if_pos (hround.symm.trans_le (rounded_mono limit_pos h))]

protected theorem mul_comm (u v : Binary64) : u * v = v * u := by
  show mul u v = mul v u
  cases u <;> cases v <;> simp only [mul, Rat.mul_comm, Bool.or_comm, bne_comm]

theorem infinite_mul_ne_finite (negative : Bool) (u : Binary64) (r : Rat) : .infinite negative * u ≠ .finite r := by
  show mul _ _ ≠ _
  cases u with
  | finite s =>
    unfold mul
    dsimp only
    split <;> nofun
  | infinite negative' => nofun
  | undefined => nofun

/-- The errors of a few hundred roundings leave the powers of ten in the range where they are. -/
theorem lt_slack_pow_mul_limit (hk : k ≤ 310) : 10 ^ 308 < slack ^ k * limit :=
  calc (10 : Rat) ^ 308 < (1 - (310 : Nat) / 2 ^ 53) * limit := by decide +kernel
    _ ≤ slack ^ 310 * limit := mul_le_mul_of_nonneg_right (le_slack_pow 310) limit_pos.le
    _ ≤ slack ^ k * limit := mul_le_mul_of_nonneg_right (slack_pow_anti hk) limit_pos.le

/-- A factor from one upwards does not bring a number back below the limit. -/
theorem past_mul (ha : 1 ≤ a) (hb : slack ^ j * limit ≤ b) : slack ^ (i + j + 1) * limit ≤ a * b :=
  calc slack ^ (i + j + 1) * limit ≤ slack ^ j * limit :=
        mul_le_mul_of_nonneg_right (slack_pow_anti (by omega)) limit_pos.le
    _ ≤ b := hb
    _ ≤ a * b := le_mul_of_one_le_left ((mul_nonneg (slack_pow_pos j).le limit_pos.le).trans hb) ha

theorem infinite_mul_finite (hr : 0 < r) : Binary64.infinite false * .finite r = .infinite false := by
  have hnegative : ¬r < 0 := not_lt.2 hr.le
  show mul _ _ = _
  simp [mul, isZero, isNegative, hr.ne', hnegative]

theorem one_le_of_slack_pow_mul (h : 1 ≤ slack ^ k * x) : 1 ≤ x := by
  have hx : 0 < x := pos_of_mul_pos_right (one_pos.trans_le h) (slack_pow_pos k).le
  exact h.trans (mul_le_of_le_one_left hx.le (slack_pow_le_one k))

theorem near_infinite_mul (hpast : slack ^ i * limit ≤ a) (hv : Near j b v) (hb : 1 ≤ slack ^ j * b) :
    Near (i + j + 1) (a * b) (.infinite false * v) := by
  have hpast' : slack ^ (i + j + 1) * limit ≤ a * b := by
    rw [add_comm i j, mul_comm a b]
    exact past_mul (one_le_of_slack_pow_mul hb) hpast
  cases hv with
  | finite formatted within =>
    rw [infinite_mul_finite (one_pos.trans_le (hb.trans within.below))]
    exact .infinite hpast'
  | infinite => exact .infinite hpast'

/-- The product of two numbers that have been rounded before. Neither may be less than one, so that an infinite one
stays past the limit. -/
theorem near_mul (hu : Near i a u) (hv : Near j b v) (ha : 1 ≤ slack ^ i * a) (hb : 1 ≤ slack ^ j * b) :
    Near (i + j + 1) (a * b) (u * v) := by
  cases hu with
  | infinite past => exact near_infinite_mul past hv hb
  | @finite r hr hrWithin =>
    cases hv with
    | infinite past =>
      rw [Binary64.mul_comm, mul_comm a b, add_comm i j]
      exact near_infinite_mul past (.finite hr hrWithin) ha
    | @finite s hs hsWithin =>
      have ha' : 0 ≤ a := zero_le_one.trans (one_le_of_slack_pow_mul ha)
      have hb' : 0 ≤ b := zero_le_one.trans (one_le_of_slack_pow_mul hb)
      have hproduct : 1 ≤ r * s :=
        one_le_mul_of_one_le_of_one_le (ha.trans hrWithin.below) (hb.trans hsWithin.below)
      have hfactors := hrWithin.mul hsWithin ha' hb' hr.nonneg hs.nonneg
      exact .of_within hfactors (near_nearest (leastNormal_le_one.trans hproduct))

/-! ### Powers of ten -/

/-- A factor from two upwards makes up for the rounding of a product. -/
theorem le_slack_pow_mul (ha : 2 ≤ slack ^ i * a) (ht : 0 ≤ t) (hb : t ≤ slack ^ j * b) :
    t ≤ slack ^ (j + i + 1) * (b * a) :=
  calc t = t * 2 * (1 / 2) := by ring
    _ ≤ slack ^ j * b * (slack ^ i * a) * slack := by
      have hproduct : t * 2 ≤ slack ^ j * b * (slack ^ i * a) := mul_le_mul hb ha zero_le_two (ht.trans hb)
      exact mul_le_mul hproduct (by norm_num [slack]) (by norm_num) ((mul_nonneg ht zero_le_two).trans hproduct)
    _ = slack ^ (j + i + 1) * (b * a) := by ring

/-- One step of repeated squaring takes the base into the result when the exponent is odd. -/
theorem near_step (n : Nat) (hu : Near i a u) (ha : 2 ≤ slack ^ i * a) (hv : Near j b v) (hb : 1 ≤ slack ^ j * b) :
    Near (j + n % 2 * (i + 1)) (b * a ^ (n % 2)) (if n % 2 = 1 then v * u else v) ∧
      1 ≤ slack ^ (j + n % 2 * (i + 1)) * (b * a ^ (n % 2)) := by
  rcases Nat.mod_two_eq_zero_or_one n with heven | hodd
  · simpa [heven] using And.intro hv hb
  · have hproduct := near_mul hv hu hb (one_le_two.trans ha)
    simpa [hodd, ← add_assoc] using And.intro hproduct (le_slack_pow_mul ha zero_le_one hb)

/-- Repeated squaring. Each factor of the power brings its own error and one rounding. -/
theorem near_squarings (n : Nat) (hu : Near i a u) (ha : 2 ≤ slack ^ i * a) (hv : Near j b v)
    (hb : 1 ≤ slack ^ j * b) : Near (j + n * (i + 1)) (b * a ^ n) (tenPow.squarings n u v) := by
  fun_induction tenPow.squarings n u v generalizing i j a b with
  | case1 n u v result =>
    have hn : n % 2 = n := by omega
    have hresult : Near (j + n % 2 * (i + 1)) (b * a ^ (n % 2)) result := (near_step n hu ha hv hb).1
    rwa [hn] at hresult
  | case2 n u v result hmore =>
    rename_i ih
    obtain ⟨hresult, hresult'⟩ := near_step n hu ha hv hb
    have hsquare : Near (i + i + 1) (a * a) (u * u) := near_mul hu hu (one_le_two.trans ha) (one_le_two.trans ha)
    have hrest := ih hsquare (le_slack_pow_mul ha zero_le_two ha) hresult hresult'
    have hsplit : n % 2 + 2 * (n / 2) = n := Nat.mod_add_div n 2
    have hpower : b * a ^ (n % 2) * (a * a) ^ (n / 2) = b * a ^ n := by
      rw [← pow_two, ← pow_mul, mul_assoc, ← pow_add, hsplit]
    have hsteps : j + n % 2 * (i + 1) + n / 2 * (i + i + 1 + 1) = j + n * (i + 1) := by
      calc j + n % 2 * (i + 1) + n / 2 * (i + i + 1 + 1) = j + (n % 2 + 2 * (n / 2)) * (i + 1) := by ring
        _ = j + n * (i + 1) := by rw [hsplit]
    rwa [hpower, hsteps] at hrest

theorem tenPow_natCast (n : Nat) : tenPow n = tenPow.squarings n (.finite 10) (.finite 1) := by
  have hn : ¬(n : Int) < 0 := by omega
  simp [tenPow, hn]

theorem tenPow_neg (hn : 0 < n) : tenPow (-(n : Int)) = .finite 1 / tenPow n := by
  rw [tenPow_natCast]
  simp [tenPow, hn]

theorem near_tenPow (n : Nat) : Near n (10 ^ n) (tenPow n) := by
  have hone : Near 0 1 (.finite 1) := .of_isFormatted (isFormatted_natCast (n := 1) (by norm_num))
  have hten : Near 0 10 (.finite 10) := .of_isFormatted (isFormatted_natCast (n := 10) (by norm_num))
  have h := near_squarings n hten (by norm_num) hone (by norm_num)
  rw [tenPow_natCast]
  simpa using h

theorem tenPow_eq (hn : n ≤ 22) : tenPow n = .finite (10 ^ n) := by
  interval_cases n <;> decide +kernel

/-- The roundings in a whole power of ten: one for each factor, unless it comes out exactly. -/
def wholeTenPowRoundings (n : Nat) : Nat := if n ≤ 22 then 0 else n

/-- The roundings in a power of ten: those of the whole power, and one in a reciprocal. -/
def tenPowRoundings (power : Int) : Nat := wholeTenPowRoundings power.natAbs + if power < 0 then 1 else 0

theorem wholeTenPowRoundings_le (n : Nat) : wholeTenPowRoundings n ≤ n := by
  unfold wholeTenPowRoundings
  split_ifs <;> omega

theorem tenPowRoundings_eq_zero {p : Int} (h : tenPowRoundings p = 0) : 0 ≤ p ∧ p ≤ 22 := by
  unfold tenPowRoundings wholeTenPowRoundings at h
  split_ifs at h <;> omega

/-- Up to the power 308 a power of ten is a number of the format. -/
theorem tenPow_of_le (hn : n ≤ 308) :
    ∃ r, tenPow n = .finite r ∧ 0 < r ∧ Within (wholeTenPowRoundings n) (10 ^ n) r := by
  have hpow : (0 : Rat) < 10 ^ n := by positivity
  unfold wholeTenPowRoundings
  split_ifs with hsmall
  · exact ⟨10 ^ n, tenPow_eq hsmall, hpow, .refl _⟩
  · obtain ⟨r, hr, -, hwithin⟩ := (near_tenPow n).exists_finite
      ((pow_le_pow_right₀ (by norm_num) hn).trans_lt (lt_slack_pow_mul_limit (by omega)))
    exact ⟨r, hr, (mul_pos (slack_pow_pos n) hpow).trans_le hwithin.below, hwithin⟩

/-- Past the power 308 there is no number of the format left. -/
theorem tenPow_of_gt (hn : 308 < n) : tenPow n = .infinite false := by
  have hbound : limit ≤ slack ^ n * 10 ^ n :=
    calc limit ≤ (1 - (309 : Nat) / 2 ^ 53) * 10 ^ 309 := by decide +kernel
      _ ≤ slack ^ 309 * 10 ^ 309 := mul_le_mul_of_nonneg_right (le_slack_pow 309) (by positivity)
      _ = (slack * 10) ^ 309 := (mul_pow _ _ _).symm
      _ ≤ (slack * 10) ^ n := pow_le_pow_right₀ (by norm_num [slack]) hn
      _ = slack ^ n * 10 ^ n := mul_pow _ _ _
  exact (near_tenPow n).eq_infinite hbound

/-- The reciprocals keep all of their bits down to the power 307, and roundings do not change that. -/
theorem leastNormal_le_one_div (h : Within k (10 ^ n) t) (ht : 0 < t) (hk : k ≤ 307) (hn : n ≤ 307) :
    leastNormal ≤ 1 / t := by
  rw [le_div_iff₀ ht]
  refine le_of_mul_le_mul_left ?_ (slack_pow_pos k)
  calc slack ^ k * (leastNormal * t) = leastNormal * (slack ^ k * t) := by ring
    _ ≤ leastNormal * 10 ^ 307 :=
      mul_le_mul_of_nonneg_left (h.above.trans (pow_le_pow_right₀ (by norm_num) hn)) leastNormal_pos.le
    _ ≤ 1 - (307 : Nat) / 2 ^ 53 := by decide +kernel
    _ ≤ slack ^ 307 := le_slack_pow 307
    _ ≤ slack ^ k * 1 := (slack_pow_anti hk).trans_eq (mul_one _).symm

/-- The negative powers that keep all of their bits are reciprocals, rounded once more. -/
theorem tenPow_neg_of_le (hpos : 0 < n) (hn : n ≤ 307) :
    ∃ r, tenPow (-(n : Int)) = .finite r ∧ 0 < r ∧ Within (wholeTenPowRoundings n + 1) (1 / 10 ^ n) r := by
  obtain ⟨t, ht, htpos, hwithin⟩ := tenPow_of_le (n := n) (by omega)
  have hpow : (0 : Rat) < 10 ^ n := by positivity
  have hk : wholeTenPowRoundings n ≤ 307 := (wholeTenPowRoundings_le n).trans hn
  have hsmall : 1 / 10 ^ n < slack ^ (wholeTenPowRoundings n + 1) * limit :=
    calc (1 : Rat) / 10 ^ n ≤ 1 := (div_le_one hpow).2 (one_le_pow₀ (by norm_num))
      _ ≤ 10 ^ 308 := one_le_pow₀ (by norm_num)
      _ < slack ^ (wholeTenPowRoundings n + 1) * limit := lt_slack_pow_mul_limit (by omega)
  have hnear := near_nearest (leastNormal_le_one_div hwithin htpos hk hn)
  obtain ⟨r, hr, -, hr'⟩ := (Near.of_within (hwithin.one_div hpow htpos) hnear).exists_finite hsmall
  refine ⟨r, ?_, (mul_pos (slack_pow_pos _) (one_div_pos.2 hpow)).trans_le hr'.below, hr'⟩
  rw [tenPow_neg hpos, ht, ← hr]
  exact if_neg htpos.ne'

theorem tenPow_neg_of_gt (hn : 308 < n) : tenPow (-(n : Int)) = .finite 0 := by
  rw [tenPow_neg (by omega), tenPow_of_gt hn]
  rfl

theorem exists_tenPow {p : Int} (hlow : -307 ≤ p) (hhigh : p ≤ 308) :
    ∃ r, tenPow p = .finite r ∧ 0 < r ∧ Within (tenPowRoundings p) (10 ^ p) r := by
  rcases le_or_gt 0 p with hp | hp
  · obtain ⟨n, rfl⟩ := Int.eq_ofNat_of_zero_le hp
    simpa [tenPowRoundings, hp.not_gt] using tenPow_of_le (n := n) (by omega)
  · obtain ⟨n, hn⟩ := Int.eq_ofNat_of_zero_le (neg_nonneg.2 hp.le)
    obtain rfl : p = -(n : Int) := by omega
    have hpos : 0 < n := by omega
    simpa [tenPowRoundings, hpos] using tenPow_neg_of_le hpos (by omega)

end NodeVolumes.Binary64
