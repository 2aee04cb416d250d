import Mathlib.Algebra.Order.Field.Rat
import NodeVolumes.HostPath.Quota

/-! # Size tokens as numbers

The token of a number of KiB is its decimal numeral, without zeros in front, and `k`. So the longer one of two tokens
has the greater number, and of two equally long ones it is the one that comes later in the order of texts.

* `exists_digits_of_isSizeToken`: the texts that are size tokens.
* `kibOfToken?_sizeToken`: a token is read back as its number.
* `tokenExceeds_sizeToken_iff`: the order of tokens is that of their numbers. -/

namespace NodeVolumes

/-! ### Rows of digits -/

theorem digitsValue_eq_ofDigitChars (cs : List Char) : digitsValue cs = Nat.ofDigitChars 10 cs 0 := rfl

theorem digitsValue_toDigits (n : Nat) : digitsValue (Nat.toDigits 10 n) = n := by
  rw [digitsValue_eq_ofDigitChars, Nat.ofDigitChars_ten_toDigits]

theorem digitsValue_cons (c : Char) (cs : List Char) :
    digitsValue (c :: cs) = 10 ^ cs.length * (c.toNat - 48) + digitsValue cs := by
  rw [digitsValue_eq_ofDigitChars, Nat.ofDigitChars_cons, Nat.ofDigitChars_eq_ofDigitChars_zero]
  simp [digitsValue_eq_ofDigitChars]

theorem toNat_of_isDigit {c : Char} (h : c.isDigit = true) : 48 ≤ c.toNat ∧ c.toNat ≤ 57 := by
  simp only [Char.isDigit, Bool.and_eq_true, decide_eq_true_eq] at h
  exact ⟨h.1, h.2⟩

theorem digitsValue_lt {cs : List Char} (h : ∀ c ∈ cs, c.isDigit = true) : digitsValue cs < 10 ^ cs.length := by
  induction cs with
  | nil => decide
  | cons c cs ih =>
    have hc := toNat_of_isDigit (h c (by simp))
    have hcs := ih fun d hd => h d (by simp [hd])
    rw [digitsValue_cons, List.length_cons, Nat.pow_succ]
    have : 10 ^ cs.length * (c.toNat - 48) ≤ 10 ^ cs.length * 9 := Nat.mul_le_mul_left _ (by omega)
    omega

theorem mul_add_lt_mul_add_iff {p x y r s : Nat} (hr : r < p) (hs : s < p) :
    p * x + r < p * y + s ↔ x < y ∨ x = y ∧ r < s := by
  rcases Nat.lt_trichotomy x y with h | rfl | h
  · have : p * (x + 1) ≤ p * y := Nat.mul_le_mul_left p h
    rw [Nat.mul_succ] at this
    exact iff_of_true (by omega) (.inl h)
  · omega
  · have : p * (y + 1) ≤ p * x := Nat.mul_le_mul_left p h
    rw [Nat.mul_succ] at this
    exact iff_of_false (by omega) (by omega)

theorem append_lt_append_iff {ds es : List Char} (t : List Char) (hlength : ds.length = es.length)
    (hds : ∀ c ∈ ds, c.isDigit = true) (hes : ∀ c ∈ es, c.isDigit = true) :
    ds ++ t < es ++ t ↔ digitsValue ds < digitsValue es := by
  induction ds generalizing es with
  | nil =>
    cases es with
    | nil => simp
    | cons e es => cases hlength
  | cons d ds ih =>
    cases es with
    | nil => cases hlength
    | cons e es =>
      have hlength' : ds.length = es.length := by simpa using hlength
      have hd := toNat_of_isDigit (hds d (by simp))
      have he := toNat_of_isDigit (hes e (by simp))
      have hds' : ∀ c ∈ ds, c.isDigit = true := fun c hc => hds c (by simp [hc])
      have hes' : ∀ c ∈ es, c.isDigit = true := fun c hc => hes c (by simp [hc])
      have hlt : d < e ↔ d.toNat - 48 < e.toNat - 48 := by
        rw [show d < e ↔ d.toNat < e.toNat from Iff.rfl]
        omega
      have heq : d = e ↔ d.toNat - 48 = e.toNat - 48 := by
        rw [← Char.toNat_inj]
        omega
      rw [List.cons_append, List.cons_append, List.cons_lt_cons_iff, ih hlength' hds' hes', digitsValue_cons,
        digitsValue_cons, hlength', mul_add_lt_mul_add_iff (hlength' ▸ digitsValue_lt hds') (digitsValue_lt hes'),
        hlt, heq]

namespace HostPath

/-! ### The shape of tokens -/

theorem toUpper_eq_self_of_isDigit {c : Char} (h : c.isDigit = true) : c.toUpper = c := by
  have hle : c.val ≤ 57 := by
    simp only [Char.isDigit, Bool.and_eq_true, decide_eq_true_eq] at h
    exact h.2
  unfold Char.toUpper
  rw [dif_neg]
  intro hlower
  have hge : 97 ≤ c.val := hlower.1
  exact absurd (UInt32.le_trans hge hle) (by decide)

/-- A size token is a row of digits with `k` behind it, and in upper case one with `K`. -/
theorem exists_digits_of_isSizeToken {token : String} (h : isSizeToken token = true) : ∃ digits : String,
    token = digits ++ "k" ∧ token.toUpper = digits ++ "K" ∧ digits ≠ "" ∧
      ∀ c ∈ digits.toList, c.isDigit = true := by
  unfold isSizeToken at h
  split at h
  case h_2 => cases h
  case h_1 ds hrev =>
    rw [Bool.and_eq_true, decide_eq_true_eq, List.all_eq_true] at h
    have hdigits : ∀ c ∈ ds.reverse, c.isDigit = true := fun c hc => h.2 c (List.mem_reverse.1 hc)
    have htoken : token.toList = ds.reverse ++ ['k'] := by
      rw [← List.reverse_inj, hrev, List.reverse_concat, List.reverse_reverse]
    have hupper : (ds.reverse ++ ['k']).map Char.toUpper = ds.reverse ++ ['K'] := by
      rw [List.map_append, List.map_congr_left fun c hc => toUpper_eq_self_of_isDigit (hdigits c hc), List.map_id']
      rfl
    refine ⟨String.ofList ds.reverse, ?_, ?_, ?_, ?_⟩
    · exact String.toList_injective (by simpa using htoken)
    · refine String.toList_injective ?_
      rw [String.toUpper, String.toList_map, htoken, hupper]
      simp
    · simpa using h.1
    · simpa using hdigits

/-! ### Tokens of numbers -/

variable {kib a b : Nat}

theorem toList_sizeToken (kib : Nat) : (sizeToken kib).toList = Nat.toDigits 10 kib ++ ['k'] := by
  show (kib.repr ++ "k").toList = _
  rw [String.toList_append, Nat.toList_repr]
  rfl

theorem isDigit_of_mem_toDigits {c : Char} (h : c ∈ Nat.toDigits 10 kib) : c.isDigit = true :=
  Nat.isDigit_of_mem_toDigits (by decide) (by decide) h

theorem isSizeToken_sizeToken (kib : Nat) : isSizeToken (sizeToken kib) = true := by
  have hdigits : ((Nat.toDigits 10 kib).reverse.all Char.isDigit) = true := by
    rw [List.all_eq_true]
    exact fun c hc => isDigit_of_mem_toDigits (List.mem_reverse.1 hc)
  have hne : (Nat.toDigits 10 kib).reverse ≠ [] := by simp
  unfold isSizeToken
  rw [toList_sizeToken, List.reverse_append, List.reverse_singleton, List.singleton_append]
  simp only [hdigits, decide_eq_true hne, Bool.and_self]

/-- A token is read back as the number that it was made of. -/
theorem kibOfToken?_sizeToken (kib : Nat) : kibOfToken? (sizeToken kib) = some kib := by
  unfold kibOfToken?
  rw [if_pos (isSizeToken_sizeToken kib), toList_sizeToken, List.dropLast_concat, digitsValue_toDigits]

theorem sizeToken_inj : sizeToken a = sizeToken b ↔ a = b := by
  constructor
  · intro h
    have hread := kibOfToken?_sizeToken a
    rw [h, kibOfToken?_sizeToken] at hread
    exact (Option.some.inj hread).symm
  · rintro rfl
    rfl

theorem sizeToken_eq_unsetLimit_iff : sizeToken kib = unsetLimit ↔ kib = 0 := sizeToken_inj (b := 0)

theorem lt_of_length_toDigits_lt (h : (Nat.toDigits 10 a).length < (Nat.toDigits 10 b).length) : a < b := by
  have ha : a < 10 ^ (Nat.toDigits 10 a).length :=
    (Nat.length_toDigits_le_iff (by decide) Nat.length_toDigits_pos).1 (Nat.le_refl _)
  have hb : ¬b < 10 ^ (Nat.toDigits 10 a).length := by
    rw [← Nat.length_toDigits_le_iff (by decide) Nat.length_toDigits_pos]
    omega
  omega

/-- The order of tokens is that of their numbers. -/
theorem tokenExceeds_sizeToken_iff : tokenExceeds (sizeToken a) (sizeToken b) = true ↔ b < a := by
  have hlength (n : Nat) : (sizeToken n).length = (Nat.toDigits 10 n).length + 1 := by
    rw [← String.length_toList, toList_sizeToken, List.length_append, List.length_singleton]
  unfold tokenExceeds
  rw [Bool.or_eq_true, Bool.and_eq_true, decide_eq_true_iff, decide_eq_true_iff, decide_eq_true_iff, hlength,
    hlength, String.lt_iff, toList_sizeToken, toList_sizeToken]
  rcases Nat.lt_trichotomy (Nat.toDigits 10 a).length (Nat.toDigits 10 b).length with h | h | h
  · have := lt_of_length_toDigits_lt h
    omega
  · rw [append_lt_append_iff _ h.symm (fun _ => isDigit_of_mem_toDigits) fun _ => isDigit_of_mem_toDigits,
      digitsValue_toDigits, digitsValue_toDigits]
    omega
  · have := lt_of_length_toDigits_lt h
    omega

end HostPath
end NodeVolumes
