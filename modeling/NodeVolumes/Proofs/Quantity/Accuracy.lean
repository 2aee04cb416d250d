import NodeVolumes.Proofs.Number.Accuracy
import NodeVolumes.Proofs.Quantity.Grammar

/-! # The accuracy of quantities

The bytes of a quantity are worked out in double precision: the numeral is rounded, the factor of its unit is a number
that may have been rounded, and so is their product. Each rounding moves the number of bytes by one part in `2 ^ 53` at
most, and then a fraction is rounded up. So the bytes are the denoted ones when nothing has to be rounded. Else they
may be a byte or more beside them, also for a quantity that denotes whole bytes (`not_answers_denoted_bytes`).

* `AnswersAs raw r`: a text is answered as `r` bytes are, with their number rounded up or, past two to the power 63,
  with an error.
* `Quantity.IsExact`, `Quantity.InRange`: the quantities that need no rounding, and those whose numbers stay in the
  range where a rounding keeps all bits.
* `bytes_are_near_denoted`: how far the bytes of a quantity may be from those that it denotes. -/

namespace NodeVolumes

open Binary64

variable {raw : String} {cs : List Char} {q : Quantity} {scale : Scale} {x r f : Rat} {k n : Nat}

/-! ### Answers -/

/-- The answer to a text that gives no number of bytes. -/
def IsRefused (raw : String) : Prop :=
  parseBytes raw = .error (.capacityParse ("invalid quantity " ++ Text.quoted raw))

/-- A text is answered as `r` bytes are: rounded up, and cut to a word. More than two to the power 63 are refused. -/
structure AnswersAs (raw : String) (r : Rat) : Prop where
  ok : r ≤ 2 ^ 63 → parseBytes raw = .ok (min maxInt64 r.ceil)
  refused : 2 ^ 63 < r → IsRefused raw

theorem isRefused_of_bytes? (hq : Quantity.Spells (Text.trimChars raw.toList) q) (h : q.bytes? = none) :
    IsRefused raw := by
  unfold IsRefused parseBytes
  rw [Quantity.read?_eq_some_iff.2 hq, Option.bind_some, h]

theorem isRefused_of_ne_finite (hq : Quantity.Spells (Text.trimChars raw.toList) q)
    (hproduct : ∀ r, q.product ≠ .finite r) : IsRefused raw :=
  isRefused_of_bytes? hq (Quantity.bytes?_of_ne_finite hproduct)

theorem answersAs_of_product (hq : Quantity.Spells (Text.trimChars raw.toList) q) (hproduct : q.product = .finite r)
    (hr : 0 ≤ r) : AnswersAs raw r where
  ok hlimit := by
    rw [parseBytes_eq_ok_iff, Quantity.read?_eq_some_iff.2 hq, Option.bind_some,
      Quantity.bytes?_of_product hproduct hr, if_pos hlimit]
  refused hlimit := by
    refine isRefused_of_bytes? hq ?_
    rw [Quantity.bytes?_of_product hproduct hr, if_neg (not_le.2 hlimit)]

/-! ### Units -/

namespace Scale

/-- The roundings in the factor of a unit. -/
def roundings : Scale → Nat
  | milli => 1
  | decimal _ | binary _ => 0
  | tenTo power => tenPowRoundings power

/-- The units with a factor that keeps all of its bits. -/
def InRange : Scale → Prop
  | tenTo power => -307 ≤ power ∧ power ≤ 308
  | _ => True

theorem exact_nonneg (scale : Scale) : 0 ≤ scale.exact := by
  cases scale <;> simp only [exact] <;> positivity

theorem roundings_le (h : scale.InRange) : scale.roundings ≤ 308 := by
  cases scale with
  | milli => decide
  | decimal rank => exact Nat.zero_le _
  | binary rank => exact Nat.zero_le _
  | tenTo power =>
    obtain ⟨hlow, hhigh⟩ := h
    have hwhole := wholeTenPowRoundings_le power.natAbs
    show tenPowRoundings power ≤ 308
    unfold tenPowRoundings
    split_ifs <;> omega

theorem factor_of_named : ∀ e ∈ namedUnits, e.2 = .milli ∨ e.2.factor = .finite e.2.exact ∧ e.2.roundings = 0 := by
  decide +kernel

theorem exists_natCast (hexact : scale.roundings = 0) : ∃ m : Nat, scale.exact = m := by
  cases scale with
  | milli => cases hexact
  | decimal rank => exact ⟨1000 ^ rank, by simp [exact]⟩
  | binary rank => exact ⟨1024 ^ rank, by simp [exact]⟩
  | tenTo power =>
    obtain ⟨n, rfl⟩ := Int.eq_ofNat_of_zero_le (tenPowRoundings_eq_zero hexact).1
    exact ⟨10 ^ n, by simp [exact]⟩

theorem factor_eq_exact (h : SpellsScale cs scale) (hexact : scale.roundings = 0) :
    scale.factor = .finite scale.exact := by
  cases h with
  | named mem =>
    rcases factor_of_named _ mem with rfl | ⟨hfactor, -⟩
    · cases hexact
    · exact hfactor
  | @power mark cs p marked spells fits =>
    obtain ⟨hlow, hhigh⟩ := tenPowRoundings_eq_zero hexact
    obtain ⟨n, rfl⟩ := Int.eq_ofNat_of_zero_le hlow
    show tenPow n = .finite (10 ^ (n : Int))
    rw [tenPow_eq (by omega), zpow_natCast]

theorem exists_factor (h : SpellsScale cs scale) (hrange : scale.InRange) :
    ∃ f, scale.factor = .finite f ∧ 0 < f ∧ Within scale.roundings scale.exact f := by
  cases h with
  | @named name scale mem =>
    rcases factor_of_named _ mem with rfl | ⟨hfactor, hroundings⟩
    · obtain ⟨f, hf, -, hwithin⟩ := exists_nearest_of_normal (q := 1 / 1000) (by decide +kernel) (by decide +kernel)
      exact ⟨f, hf, (mul_pos (slack_pow_pos 1) (by norm_num)).trans_le hwithin.below, hwithin⟩
    · have hpos : ∀ e ∈ namedUnits, 0 < e.2.exact := by decide +kernel
      rw [hroundings]
      exact ⟨_, hfactor, hpos _ mem, .refl _⟩
  | @power mark cs p marked spells fits => exact exists_tenPow hrange.1 hrange.2

end Scale

/-! ### Quantities -/

namespace Quantity

theorem spellsScale_of_spells (hq : Spells cs q) : ∃ us, SpellsScale us q.scale := by
  cases hq with
  | mk signed number unit => exact ⟨_, unit⟩

/-- Quantities whose bytes are worked out without any rounding. -/
structure IsExact (q : Quantity) : Prop where
  number : IsFormatted q.number.value
  scale : q.scale.roundings = 0
  bytes : IsFormatted q.exact

/-- Quantities with a numeral, a factor and a number of bytes in the range where a rounding keeps all bits. -/
structure InRange (q : Quantity) : Prop where
  number : q.number.value ≤ greatest
  scale : q.scale.InRange
  normal : q.number.value = 0 ∨ leastNormal ≤ q.number.value ∧ 2 * leastNormal ≤ q.exact

end Quantity

theorem answersAs_of_isExact (hq : Quantity.Spells (Text.trimChars raw.toList) q) (h : q.IsExact) :
    AnswersAs raw q.exact := by
  obtain ⟨us, hunit⟩ := Quantity.spellsScale_of_spells hq
  refine answersAs_of_product hq ?_ h.bytes.nonneg
  unfold Quantity.product
  rw [h.number.nearest_eq, Scale.factor_eq_exact hunit h.scale]
  exact h.bytes.nearest_eq

namespace Quantity

/-- The product is two roundings further away than the factor: that of the numeral and its own. -/
theorem near_product (hq : Spells cs q) (h : q.InRange) (hnormal : leastNormal ≤ q.number.value)
    (hbytes : 2 * leastNormal ≤ q.exact) : Near (q.scale.roundings + 2) q.exact q.product := by
  obtain ⟨us, hunit⟩ := spellsScale_of_spells hq
  obtain ⟨f, hf, hfpos, hfactor⟩ := Scale.exists_factor hunit h.scale
  obtain ⟨a, ha, haFormatted, hnumber⟩ := exists_nearest_of_normal hnormal h.number
  have hproduct : q.product = nearest (a * f) := by
    unfold product
    rw [ha, hf]
    rfl
  have hfactors : Within (1 + q.scale.roundings) q.exact (a * f) :=
    hnumber.mul hfactor (leastNormal_pos.le.trans hnormal) q.scale.exact_nonneg haFormatted.nonneg hfpos.le
  -- the errors so far do not take the product below the numbers that keep all bits
  have hlow : leastNormal ≤ a * f := by
    have hroundings := Scale.roundings_le h.scale
    have hhalf := half_le_slack_pow (by omega : 1 + q.scale.roundings ≤ 310)
    calc leastNormal = 1 / 2 * (2 * leastNormal) := by ring
      _ ≤ slack ^ (1 + q.scale.roundings) * q.exact :=
        mul_le_mul hhalf hbytes (by linarith [leastNormal_pos]) (slack_pow_pos _).le
      _ ≤ a * f := hfactors.below
  have hnear := Near.of_within hfactors (near_nearest hlow)
  rwa [show 1 + q.scale.roundings + 1 = q.scale.roundings + 2 by ring, ← hproduct] at hnear

end Quantity

theorem exists_answersAs_of_near (hq : Quantity.Spells (Text.trimChars raw.toList) q)
    (h : Near k q.exact q.product) (hk : k ≤ 310) : ∃ r, Within k q.exact r ∧ AnswersAs raw r := by
  cases hproduct : q.product with
  | finite r =>
    rw [hproduct] at h
    cases h with
    | finite formatted within => exact ⟨r, within, answersAs_of_product hq hproduct formatted.nonneg⟩
  | infinite negative =>
    -- past the range of the format the denoted number of bytes is refused, too
    rw [hproduct] at h
    cases h with
    | infinite past =>
      have hlarge : 2 ^ 63 < q.exact :=
        calc (2 : Rat) ^ 63 < 10 ^ 308 := by decide +kernel
          _ < slack ^ k * limit := lt_slack_pow_mul_limit hk
          _ ≤ q.exact := past
      have hnonneg : 0 ≤ q.exact := by linarith
      refine ⟨q.exact, (Within.refl _).mono hnonneg hnonneg (Nat.zero_le k), ?_, fun _ => ?_⟩
      · exact fun hle => absurd hle (not_le.2 hlarge)
      · exact isRefused_of_ne_finite hq (by simp [hproduct])
  | undefined =>
    rw [hproduct] at h
    cases h

theorem exists_answersAs_of_inRange (hq : Quantity.Spells (Text.trimChars raw.toList) q) (h : q.InRange) :
    ∃ r, Within (q.scale.roundings + 2) q.exact r ∧ AnswersAs raw r := by
  rcases h.normal with hzero | ⟨hnormal, hbytes⟩
  · obtain ⟨us, hunit⟩ := Quantity.spellsScale_of_spells hq
    obtain ⟨f, hf, -, -⟩ := Scale.exists_factor hunit h.scale
    have hproduct : q.product = nearest (0 * f) := by
      unfold Quantity.product
      rw [hf, hzero]
      rfl
    have hexact : q.exact = 0 := by rw [Quantity.exact, hzero, zero_mul]
    rw [zero_mul] at hproduct
    rw [hexact]
    exact ⟨0, (Within.refl 0).mono le_rfl le_rfl (Nat.zero_le _), answersAs_of_product hq hproduct le_rfl⟩
  · have hroundings := Scale.roundings_le h.scale
    exact exists_answersAs_of_near hq (Quantity.near_product hq h hnormal hbytes) (by omega)

theorem abs_ceil_sub_ceil_le (h : |r - x| ≤ 1) : |r.ceil - x.ceil| ≤ 1 := by
  obtain ⟨hlow, hhigh⟩ := abs_le.1 h
  have hx : x ≤ x.ceil := Rat.le_ceil
  have hr : r ≤ r.ceil := Rat.le_ceil
  have hceilLow : x.ceil ≤ r.ceil + 1 := by
    refine Rat.ceil_le_iff.2 ?_
    push_cast
    linarith
  have hceilHigh : r.ceil ≤ x.ceil + 1 := by
    refine Rat.ceil_le_iff.2 ?_
    push_cast
    linarith
  exact abs_le.2 ⟨by linarith, by linarith⟩

theorem AnswersAs.eq_ceil (h : AnswersAs raw r) (hr : r ≤ 2 ^ 53) : parseBytes raw = .ok r.ceil := by
  have hmax : r.ceil ≤ maxInt64 := Rat.ceil_le_iff.2 (hr.trans (by norm_num [maxInt64]))
  rw [h.ok (by linarith), min_eq_right hmax]

/-- Where a few roundings are less than one byte, the answer is at most one byte off. -/
theorem exists_near_of_answersAs (hwithin : Within k x r) (hanswers : AnswersAs raw r) (hx : 0 ≤ x) (hk : 1 ≤ k)
    (hsmall : k * (x + 1) ≤ 2 ^ 53) : ∃ bytes, parseBytes raw = .ok bytes ∧ |bytes - x.ceil| ≤ 1 := by
  have hnear := hwithin.abs_sub_le hx hsmall
  have hk' : (1 : Rat) ≤ k := by exact_mod_cast hk
  have hword : r ≤ 2 ^ 53 :=
    calc r ≤ x + 1 := by linarith [(abs_le.1 hnear).2]
      _ ≤ k * (x + 1) := le_mul_of_one_le_left (by linarith) hk'
      _ ≤ 2 ^ 53 := hsmall
  exact ⟨r.ceil, hanswers.eq_ceil hword, abs_ceil_sub_ceil_le hnear⟩

/-! ### Thousandths -/

/-- The factor of one thousandth is a little too great. -/
def thousandth : Rat := 1152921504606847 / 2 ^ 60

theorem factor_milli : Scale.milli.factor = .finite thousandth := by decide +kernel

theorem ceil_eq_of {c : Int} (hlow : c - 1 < r) (hhigh : r ≤ c) : r.ceil = c := by
  refine le_antisymm (Rat.ceil_le_iff.2 hhigh) (not_lt.1 fun hlt => ?_)
  have hle : r ≤ ((c - 1 : Int) : Rat) := Rat.ceil_le_iff.1 (Int.le_sub_one_of_lt hlt)
  push_cast at hle
  linarith

theorem thousands_lt (n : Nat) : (1000 * (((n : Rat) * (1 / 1000)).ceil - 1) + 1 : Rat) ≤ n := by
  generalize hc : ((n : Rat) * (1 / 1000)).ceil = c
  have hlt : ((c - 1 : Int) : Rat) < n * (1 / 1000) :=
    not_le.1 fun hle => absurd (Rat.ceil_le_iff.2 hle) (by omega)
  have hlt' : ((1000 * (c - 1) : Int) : Rat) < (n : Int) := by
    push_cast at hlt ⊢
    linarith
  exact_mod_cast Int.add_one_le_of_lt (Int.cast_lt.1 hlt')

/-- Thousandths of a whole number are rounded, and then rounded up, to what they are when they are only rounded up. The
error of the factor is lost in the rounding, and the rounding does not bridge a thousandth. -/
theorem exists_nearest_thousandths (hn : n ≤ 2 ^ 53) :
    ∃ r, nearest (n * thousandth) = .finite r ∧ 0 ≤ r ∧ r ≤ 2 ^ 53 ∧ r.ceil = ((n : Rat) * (1 / 1000)).ceil := by
  rcases Nat.eq_zero_or_pos n with rfl | hpos
  · exact ⟨0, by simp [nearest], le_rfl, by norm_num, by norm_num⟩
  have hn' : (n : Rat) ≤ 2 ^ 53 := by exact_mod_cast hn
  have hpos' : (1 : Rat) ≤ n := by exact_mod_cast hpos
  have hceil := thousands_lt n
  have hceil' : (n : Rat) * (1 / 1000) ≤ ((n : Rat) * (1 / 1000)).ceil := Rat.le_ceil
  generalize ((n : Rat) * (1 / 1000)).ceil = c at *
  obtain ⟨q, hq⟩ : ∃ q, (n : Rat) * thousandth = q := ⟨_, rfl⟩
  rw [hq]
  rw [thousandth] at hq
  have hqpos : 0 < q := by linarith
  have hbit : lastBit q ≤ -9 := lastBit_le hqpos (by norm_num) (by norm_num; linarith)
  have hhigh : rounded q ≤ c := by
    have hwhole : OnGrid (lastBit q) c := OnGrid.of_le ⟨c, by simp⟩ (by omega : lastBit q ≤ 0)
    rcases le_or_gt q c with hle | hlt
    · exact hwhole.roundTo_le hle
    · have hbits := lt_two_zpow_lastBit hqpos
      rw [zpow_add₀ two_ne_zero] at hbits
      norm_num at hbits
      refine (hwhole.roundTo_eq_of_near hlt.le ?_).le
      linarith
  have hlow : (c : Rat) - 1 < rounded q := by
    have hunit : (2 : Rat) ^ lastBit q ≤ 1 / 512 := (two_zpow_le_two_zpow hbit).trans_eq (by norm_num)
    have hrounded := (abs_le.1 (abs_roundTo_sub_le (lastBit q) q)).1
    unfold rounded
    linarith
  have hlimit : (2 : Rat) ^ 53 < limit := by decide +kernel
  have hword : rounded q ≤ 2 ^ 53 := by linarith
  refine ⟨rounded q, ?_, rounded_nonneg hqpos, hword, ceil_eq_of hlow hhigh⟩
  rw [nearest_of_pos hqpos, if_neg (not_le.2 (hword.trans_lt hlimit))]

theorem parseBytes_of_thousandths (hq : Quantity.Spells (Text.trimChars raw.toList) q) (hvalue : q.number.value = n)
    (hn : n ≤ 2 ^ 53) (hscale : q.scale = .milli) : parseBytes raw = .ok q.exact.ceil := by
  obtain ⟨r, hr, hnonneg, hword, hceil⟩ := exists_nearest_thousandths hn
  have hproduct : q.product = .finite r := by
    unfold Quantity.product
    rw [hvalue, hscale, (isFormatted_natCast hn).nearest_eq, factor_milli, ← hr]
    rfl
  have hexact : q.exact = n * (1 / 1000) := by
    unfold Quantity.exact
    rw [hvalue, hscale]
    rfl
  rw [hexact, ← hceil]
  exact (answersAs_of_product hq hproduct hnonneg).eq_ceil hword

theorem parseBytes_of_whole (hq : Quantity.Spells (Text.trimChars raw.toList) q) (hvalue : q.number.value = n)
    (hn : n ≤ 2 ^ 53) (hscale : q.scale.roundings = 0) (hbytes : q.exact ≤ 2 ^ 53) :
    parseBytes raw = .ok q.exact.ceil := by
  obtain ⟨m, hm⟩ := Scale.exists_natCast hscale
  have hexact : q.exact = (n * m : Nat) := by
    rw [Quantity.exact, hvalue, hm, Nat.cast_mul]
  have hproduct : n * m ≤ 2 ^ 53 := by
    rw [hexact] at hbytes
    exact_mod_cast hbytes
  have hanswers := answersAs_of_isExact hq
    ⟨hvalue ▸ isFormatted_natCast hn, hscale, hexact ▸ isFormatted_natCast hproduct⟩
  exact hanswers.eq_ceil hbytes

/-! ### Past the range -/

theorem isRefused_of_limit_le (hq : Quantity.Spells (Text.trimChars raw.toList) q) (h : limit ≤ q.number.value) :
    IsRefused raw := by
  refine isRefused_of_ne_finite hq fun r => ?_
  unfold Quantity.product
  rw [nearest_of_limit_le h]
  exact infinite_mul_ne_finite _ _ r

theorem isRefused_of_power {p : Int} (hq : Quantity.Spells (Text.trimChars raw.toList) q) (hscale : q.scale = .tenTo p)
    (hp : 308 < p) : IsRefused raw := by
  obtain ⟨n, rfl⟩ := Int.eq_ofNat_of_zero_le (by omega : 0 ≤ p)
  refine isRefused_of_ne_finite hq fun r => ?_
  unfold Quantity.product
  rw [hscale, show (Scale.tenTo n).factor = .infinite false from tenPow_of_gt (by omega), Binary64.mul_comm]
  exact infinite_mul_ne_finite _ _ r

theorem answersAs_zero_of_power {p : Int} (hq : Quantity.Spells (Text.trimChars raw.toList) q)
    (hscale : q.scale = .tenTo p) (hp : p < -308) (hnumber : q.number.value ≤ greatest) : AnswersAs raw 0 := by
  obtain ⟨n, hn⟩ := Int.eq_ofNat_of_zero_le (by omega : 0 ≤ -p)
  obtain rfl : p = -(n : Int) := by omega
  have hnonneg := Quantity.number_nonneg_of_read? (Quantity.read?_eq_some_iff.2 hq)
  obtain ⟨a, ha, -, -⟩ := exists_nearest_eq hnonneg hnumber isFormatted_greatest
  refine answersAs_of_product hq ?_ le_rfl
  unfold Quantity.product
  rw [hscale, show (Scale.tenTo (-n)).factor = .finite 0 from tenPow_neg_of_gt (by omega), ha]
  show nearest (a * 0) = .finite 0
  rw [mul_zero]
  rfl

/-! ### All quantities -/

/-- The answer to a quantity in its written form. Without any rounding it is the denoted number of bytes, rounded up;
so it is for a whole numeral with thousandths or, up to two to the power 53, with a unit that is a whole number. Else,
in the range where roundings keep all bits, it is the answer for a number of bytes that is two roundings away, and
those of the unit; where these are less than a byte, it is at most one byte off. A numeral or a power of ten past the
range is refused, and a power too small for it gives no bytes. -/
theorem bytes_are_near_denoted (hq : Quantity.Spells (Text.trimChars raw.toList) q) :
    (q.IsExact → AnswersAs raw q.exact) ∧
    (∀ n : Nat, q.number.value = n → n ≤ 2 ^ 53 →
      q.scale = .milli ∨ q.scale.roundings = 0 ∧ q.exact ≤ 2 ^ 53 → parseBytes raw = .ok q.exact.ceil) ∧
    (q.InRange → ∃ r, Within (q.scale.roundings + 2) q.exact r ∧ AnswersAs raw r) ∧
    (q.InRange → ((q.scale.roundings + 2 : Nat) : Rat) * (q.exact + 1) ≤ 2 ^ 53 →
      ∃ bytes, parseBytes raw = .ok bytes ∧ |bytes - q.exact.ceil| ≤ 1) ∧
    (limit ≤ q.number.value → IsRefused raw) ∧
    ∀ p, q.scale = .tenTo p →
      (308 < p → IsRefused raw) ∧ (p < -308 → q.number.value ≤ greatest → AnswersAs raw 0) := by
  have hnonneg : 0 ≤ q.exact :=
    mul_nonneg (Quantity.number_nonneg_of_read? (Quantity.read?_eq_some_iff.2 hq)) q.scale.exact_nonneg
  refine ⟨answersAs_of_isExact hq, fun n hvalue hn hunit => ?_, exists_answersAs_of_inRange hq,
    fun hrange hsmall => ?_, isRefused_of_limit_le hq,
    fun p hscale => ⟨isRefused_of_power hq hscale, answersAs_zero_of_power hq hscale⟩⟩
  · rcases hunit with hmilli | ⟨hroundings, hbytes⟩
    · exact parseBytes_of_thousandths hq hvalue hn hmilli
    · exact parseBytes_of_whole hq hvalue hn hroundings hbytes
  · obtain ⟨r, hwithin, hanswers⟩ := exists_answersAs_of_inRange hq hrange
    exact exists_near_of_answersAs hwithin hanswers hnonneg (by omega) hsmall

/-- The quantity `8.3G` is 8300000000 bytes, give or take one. -/
theorem bytes_are_near_denoted_fraction :
    Quantity.Spells (Text.trimChars "8.3G".toList) ⟨⟨false, 83, -1⟩, .decimal 3⟩ ∧
      ∃ bytes, parseBytes "8.3G" = .ok bytes ∧ |bytes - 8300000000| ≤ 1 := by
  have hq : Quantity.Spells (Text.trimChars "8.3G".toList) ⟨⟨false, 83, -1⟩, .decimal 3⟩ :=
    Quantity.read?_eq_some_iff.1 (by decide +kernel)
  have hexact : Quantity.exact ⟨⟨false, 83, -1⟩, .decimal 3⟩ = 8300000000 := by decide +kernel
  have hrange : Quantity.InRange ⟨⟨false, 83, -1⟩, .decimal 3⟩ :=
    ⟨by decide +kernel, trivial, .inr ⟨by decide +kernel, by decide +kernel⟩⟩
  obtain ⟨-, -, -, hnear, -⟩ := bytes_are_near_denoted hq
  refine ⟨hq, ?_⟩
  have hsmall := hnear hrange (by rw [hexact]; norm_num [Scale.roundings])
  rwa [hexact] at hsmall

/-- The answer is not always the denoted number of bytes: the quantity `8.3G` gets one byte more than it denotes. -/
theorem not_answers_denoted_bytes : ¬∀ (raw : String) (q : Quantity),
    Quantity.Spells (Text.trimChars raw.toList) q → 0 ≤ q.exact →
      (q.exact.ceil ≤ maxInt64 → parseBytes raw = .ok q.exact.ceil) ∧
      (maxInt64 < q.exact.ceil → ∃ e, parseBytes raw = .error e) := by
  intro h
  have hq : Quantity.Spells (Text.trimChars "8.3G".toList) ⟨⟨false, 83, -1⟩, .decimal 3⟩ :=
    Quantity.read?_eq_some_iff.1 (by decide +kernel)
  have hdenoted := (h _ _ hq (by decide +kernel)).1 (by decide +kernel)
  have hanswer : (parseBytes "8.3G").toOption = some 8300000001 := by decide +kernel
  rw [hdenoted] at hanswer
  exact absurd hanswer (by decide +kernel)

end NodeVolumes
