import Mathlib.Data.List.TakeWhile
import NodeVolumes.Number.Decimal

/-! # The written form of numerals

What is read as a whole number or as a numeral with a point, said without the readers.

* `SpellsInt`: the written forms of whole numbers, and `readInt?_eq_some_iff`: they are what is read.
* `SpellsDecimal`: the written forms of numerals without a sign, and `Decimal.unsigned?_eq_some_iff`. -/

namespace NodeVolumes

/-- Decimal digits, at least one. -/
def IsDigits (cs : List Char) : Prop := cs ≠ [] ∧ ∀ c ∈ cs, c.isDigit = true

/-- A whole number: digits, behind a sign or not. -/
inductive SpellsInt : List Char → Int → Prop
  | unsigned {ds : List Char} (digits : IsDigits ds) : SpellsInt ds (digitsValue ds)
  | plus {ds : List Char} (digits : IsDigits ds) : SpellsInt ('+' :: ds) (digitsValue ds)
  | minus {ds : List Char} (digits : IsDigits ds) : SpellsInt ('-' :: ds) (-(digitsValue ds))

/-- A numeral: digits, or digits with one point in front of, between or behind them. -/
inductive SpellsDecimal : List Char → Decimal → Prop
  | whole {ds : List Char} (digits : IsDigits ds) : SpellsDecimal ds ⟨false, digitsValue ds, 0⟩
  | pointed {ds fs : List Char} (digits : IsDigits (ds ++ fs)) :
      SpellsDecimal (ds ++ '.' :: fs) ⟨false, digitsValue (ds ++ fs), -(fs.length : Int)⟩

variable {cs ds fs : List Char} {d : Decimal} {p : Int}

/-! ### Digits -/

theorem IsDigits.exists_cons (h : IsDigits ds) : ∃ c rest, ds = c :: rest ∧ c.isDigit = true := by
  obtain ⟨c, rest, rfl⟩ := List.exists_cons_of_ne_nil h.1
  exact ⟨c, rest, rfl, h.2 c (List.mem_cons_self ..)⟩

theorem isDigits_append_iff : IsDigits (ds ++ fs) ↔
    (ds.all Char.isDigit && fs.all Char.isDigit && !(ds.isEmpty && fs.isEmpty)) = true := by
  unfold IsDigits
  rw [← List.all_eq_true, List.all_append]
  cases ds <;> cases fs <;> simp

theorem SpellsDecimal.isDigit_or_eq (h : SpellsDecimal cs d) : ∀ c ∈ cs, c.isDigit = true ∨ c = '.' := by
  intro c hc
  cases h with
  | whole hdigits => exact .inl (hdigits.2 c hc)
  | pointed hdigits =>
    rcases List.mem_append.1 hc with hc | hc
    · exact .inl (hdigits.2 c (List.mem_append_left _ hc))
    · rcases List.mem_cons.1 hc with rfl | hc
      · exact .inr rfl
      · exact .inl (hdigits.2 c (List.mem_append_right _ hc))

/-! ### Whole numbers -/

theorem readNat?_eq_some_iff {n : Nat} : readInt?.readNat? ds = some n ↔ IsDigits ds ∧ n = digitsValue ds := by
  have hdigits : IsDigits ds ↔ ¬(ds.isEmpty || !ds.all Char.isDigit) = true := by
    unfold IsDigits
    rw [← List.all_eq_true]
    cases ds <;> simp
  unfold readInt?.readNat?
  split
  case isTrue h => exact iff_of_false nofun fun hn => hdigits.1 hn.1 h
  case isFalse h =>
    rw [and_iff_right (hdigits.2 h), Option.some_inj]
    exact eq_comm

theorem readInt?_digits_eq_some_iff :
    (do return ((← readInt?.readNat? ds : Nat) : Int)) = some p ↔ IsDigits ds ∧ p = digitsValue ds := by
  constructor
  · intro h
    obtain ⟨n, hn, heq⟩ := Option.bind_eq_some_iff.1 h
    obtain ⟨hdigits, rfl⟩ := readNat?_eq_some_iff.1 hn
    exact ⟨hdigits, (Option.some_inj.1 heq).symm⟩
  · rintro ⟨hdigits, rfl⟩
    exact Option.bind_eq_some_iff.2 ⟨_, readNat?_eq_some_iff.2 ⟨hdigits, rfl⟩, rfl⟩

/-- What is read as a whole number is one in its written form. -/
theorem readInt?_eq_some_iff : readInt? cs = some p ↔ SpellsInt cs p := by
  constructor
  · intro h
    unfold readInt? at h
    split at h
    all_goals
      obtain ⟨n, hn, rfl⟩ := Option.map_eq_some_iff.1 h
      obtain ⟨hdigits, rfl⟩ := readInt?_digits_eq_some_iff.1 hn
    · exact .minus hdigits
    · exact .plus hdigits
    · exact .unsigned hdigits
  · intro h
    cases h with
    | unsigned hdigits =>
      obtain ⟨c, rest, rfl, hc⟩ := hdigits.exists_cons
      unfold readInt?
      split
      case h_1 heq =>
        cases heq
        exact absurd hc (by decide)
      case h_2 heq =>
        cases heq
        exact absurd hc (by decide)
      case h_3 => exact Option.map_eq_some_iff.2 ⟨_, readInt?_digits_eq_some_iff.2 ⟨hdigits, rfl⟩, rfl⟩
    | plus hdigits => exact Option.map_eq_some_iff.2 ⟨_, readInt?_digits_eq_some_iff.2 ⟨hdigits, rfl⟩, rfl⟩
    | minus hdigits => exact Option.map_eq_some_iff.2 ⟨_, readInt?_digits_eq_some_iff.2 ⟨hdigits, rfl⟩, rfl⟩

/-! ### Numerals with a point -/

namespace Decimal

theorem ne_point_of_isDigit (h : ∀ c ∈ ds, c.isDigit = true) : ∀ c ∈ ds, (c != '.') = true := by
  intro c hc
  rw [bne_iff_ne]
  rintro rfl
  exact absurd (h '.' hc) (by decide)

theorem parts_append_point (h : ∀ c ∈ ds, c.isDigit = true) : parts (ds ++ '.' :: fs) = (ds, fs) := by
  unfold parts
  rw [List.takeWhile_append_of_pos (ne_point_of_isDigit h), List.dropWhile_append_of_pos (ne_point_of_isDigit h)]
  simp

theorem parts_of_digits (h : ∀ c ∈ ds, c.isDigit = true) : parts ds = (ds, []) := by
  unfold parts
  rw [List.takeWhile_eq_self_iff.2 (ne_point_of_isDigit h), List.dropWhile_eq_nil_iff.2 (ne_point_of_isDigit h)]
  rfl

theorem eq_of_parts (h : parts cs = (ds, fs)) : cs = ds ∧ fs = [] ∨ cs = ds ++ '.' :: fs := by
  unfold parts at h
  obtain ⟨rfl, rfl⟩ := Prod.mk.inj h
  have hcs := List.takeWhile_append_dropWhile (p := (· != '.')) (l := cs)
  cases hrest : cs.dropWhile (· != '.') with
  | nil =>
    rw [hrest, List.append_nil] at hcs
    exact .inl ⟨hcs.symm, rfl⟩
  | cons c rest =>
    have hc : c = '.' := by
      have := List.head?_dropWhile_not (· != '.') cs
      rw [hrest] at this
      simpa using this
    subst hc
    rw [hrest] at hcs
    exact .inr hcs.symm

theorem unsigned?_of_parts (h : parts cs = (ds, fs)) : unsigned? cs = some d ↔
    IsDigits (ds ++ fs) ∧ d = ⟨false, digitsValue (ds ++ fs), -(fs.length : Int)⟩ := by
  unfold unsigned?
  rw [h, isDigits_append_iff]
  dsimp only
  split
  case isTrue hdigits =>
    rw [and_iff_right hdigits, Option.some_inj]
    exact eq_comm
  case isFalse hdigits => exact iff_of_false nofun fun hd => hdigits hd.1

/-- What is read as a numeral without a sign is one in its written form. -/
theorem unsigned?_eq_some_iff : unsigned? cs = some d ↔ SpellsDecimal cs d := by
  constructor
  · intro h
    obtain ⟨ds, fs, hparts⟩ : ∃ ds fs, parts cs = (ds, fs) := ⟨_, _, rfl⟩
    obtain ⟨hdigits, rfl⟩ := (unsigned?_of_parts hparts).1 h
    rcases eq_of_parts hparts with ⟨rfl, rfl⟩ | rfl
    · rw [List.append_nil] at hdigits ⊢
      exact .whole hdigits
    · exact .pointed hdigits
  · intro h
    cases h with
    | whole hdigits =>
      refine (unsigned?_of_parts (parts_of_digits hdigits.2)).2 ?_
      rw [List.append_nil]
      exact ⟨hdigits, rfl⟩
    | @pointed ds fs hdigits =>
      have hds : ∀ c ∈ ds, c.isDigit = true := fun c hc => hdigits.2 c (List.mem_append_left _ hc)
      exact (unsigned?_of_parts (parts_append_point hds)).2 ⟨hdigits, rfl⟩

end Decimal
end NodeVolumes
