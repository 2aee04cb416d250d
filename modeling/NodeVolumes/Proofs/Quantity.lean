import Mathlib.Tactic.NormNum
import NodeVolumes.Proofs.Error
import NodeVolumes.Proofs.Number.Order
import NodeVolumes.Quantity

/-! # Bytes of quantities

A quantity has no sign of its own but a plus, and every unit counts upwards. Its bytes are counted in double precision
and cut to a word.

* `Quantity.bytes?_eq_some_iff`: the bytes are a product in double precision, rounded up and cut to a word.
* `exists_of_parseBytes`: the bytes of a quantity are a number of double precision, but for the greatest word.
* `parseBytes_nonneg`: no quantity stands for a negative number of bytes. -/

namespace NodeVolumes

namespace Scale

theorem isNegative_factor (scale : Scale) : scale.factor.isNegative = false := by
  cases scale with
  | milli => exact Binary64.isNegative_nearest (by norm_num)
  | decimal rank => exact Binary64.isNegative_nearest (Rat.pow_nonneg (by norm_num))
  | binary rank => exact Binary64.isNegative_nearest (Rat.pow_nonneg (by norm_num))
  | tenTo power => exact Binary64.isNegative_tenPow power

end Scale

namespace Quantity

theorem number_nonneg_of_read? {raw : String} {q : Quantity} (h : read? raw = some q) :
    0 ≤ q.number.value := by
  unfold read? readChars? at h
  obtain ⟨number, hnumber, h'⟩ := Option.bind_eq_some_iff.1 h
  obtain ⟨scale, -, hq⟩ := Option.bind_eq_some_iff.1 h'
  cases hq
  unfold readNumber? at hnumber
  split at hnumber
  · exact Decimal.value_nonneg_of_unsigned? hnumber
  · exact Decimal.value_nonneg_of_unsigned? hnumber

/-- The number of bytes in double precision, before it is rounded up. -/
def product (q : Quantity) : Binary64 := Binary64.nearest q.number.value * q.scale.factor

variable {q : Quantity} {r : Rat}

theorem isFormatted_of_product (hq : 0 ≤ q.number.value) (h : q.product = .finite r) : Binary64.IsFormatted r :=
  Binary64.isFormatted_of_mul (Binary64.isNegative_nearest hq) q.scale.isNegative_factor h

theorem bytes?_of_product (h : q.product = .finite r) (hr : 0 ≤ r) :
    q.bytes? = if r ≤ 2 ^ 63 then some (min Binary64.maxInt64 r.ceil) else none := by
  have hceil : (0 : Rat) ≤ r.ceil := hr.trans Rat.le_ceil
  have hlimit : (r.ceil : Rat) ≤ (2 : Rat) ^ (63 : Nat) ↔ r ≤ 2 ^ 63 := by
    rw [show (2 : Rat) ^ 63 = ((2 ^ 63 : Int) : Rat) by norm_num, Int.cast_le, Rat.ceil_le_iff]
  unfold product at h
  unfold bytes?
  rw [h]
  dsimp only [Binary64.ceil]
  simp only [hlimit, Binary64.toInt64_of_nonneg hceil, Rat.floor_intCast]

theorem bytes?_of_ne_finite (h : ∀ r, q.product ≠ .finite r) : q.bytes? = none := by
  unfold product at h
  unfold bytes?
  cases hproduct : Binary64.nearest q.number.value * q.scale.factor with
  | finite r => exact absurd hproduct (h r)
  | infinite negative => rfl
  | undefined => rfl

/-- The bytes of a quantity are its product, rounded up and cut to a word. -/
theorem bytes?_eq_some_iff (hq : 0 ≤ q.number.value) {bytes : Int} : q.bytes? = some bytes ↔
    ∃ r, q.product = .finite r ∧ r ≤ 2 ^ 63 ∧ bytes = min Binary64.maxInt64 r.ceil := by
  by_cases h : ∃ r, q.product = .finite r
  · obtain ⟨r, hr⟩ := h
    rw [bytes?_of_product hr (isFormatted_of_product hq hr).nonneg, hr]
    split_ifs with hlimit
    · simp [hlimit, eq_comm]
    · simp [hlimit]
  · push Not at h
    simp [bytes?_of_ne_finite h, h]

theorem exists_of_bytes? {bytes : Int} (hq : 0 ≤ q.number.value) (h : q.bytes? = some bytes) :
    ∃ n : Int, Binary64.IsFormatted n ∧ n ≤ 2 ^ 63 ∧ bytes = min Binary64.maxInt64 n := by
  obtain ⟨r, hr, hlimit, hbytes⟩ := (bytes?_eq_some_iff hq).1 h
  exact ⟨r.ceil, (isFormatted_of_product hq hr).ceil, Rat.ceil_le_iff.2 (by exact_mod_cast hlimit), hbytes⟩

end Quantity

/-- The bytes that a quantity stands for are a number of double precision, unless it is the one just past the greatest
word. -/
theorem exists_of_parseBytes {raw : String} {bytes : Int} (h : parseBytes raw = .ok bytes) :
    ∃ n : Int, Binary64.IsFormatted n ∧ n ≤ 2 ^ 63 ∧ bytes = min Binary64.maxInt64 n := by
  unfold parseBytes at h
  split at h
  case h_1 m hm =>
    cases h
    obtain ⟨q, hread, hbytes⟩ := Option.bind_eq_some_iff.1 hm
    exact Quantity.exists_of_bytes? (Quantity.number_nonneg_of_read? hread) hbytes
  case h_2 => cases h

theorem eq_capacityParse_of_parseBytes {raw : String} {e : Error} (h : parseBytes raw = .error e) :
    e = .capacityParse ("invalid quantity " ++ Text.quoted raw) := by
  unfold parseBytes at h
  split at h
  case h_1 => cases h
  case h_2 => exact (Except.error.inj h).symm

theorem parseBytes_le {raw : String} {bytes : Int} (h : parseBytes raw = .ok bytes) : bytes ≤ Binary64.maxInt64 := by
  obtain ⟨n, -, -, rfl⟩ := exists_of_parseBytes h
  exact min_le_left _ _

/-- No quantity stands for a negative number of bytes. -/
theorem parseBytes_nonneg {raw : String} {bytes : Int} (h : parseBytes raw = .ok bytes) : 0 ≤ bytes := by
  obtain ⟨n, hn, -, rfl⟩ := exists_of_parseBytes h
  exact le_min (by decide) (by exact_mod_cast hn.nonneg)

end NodeVolumes
