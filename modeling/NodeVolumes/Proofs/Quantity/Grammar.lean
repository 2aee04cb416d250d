import NodeVolumes.Proofs.Number.Numeral
import NodeVolumes.Proofs.Quantity

/-! # The written form of quantities

A quantity is written as a numeral, with a plus sign in front or without, and a unit. The unit is one of a few short
names, or a power of ten behind a mark. `E` is a unit, a mark and the first letter of another unit; what follows it
decides.

* `Quantity.Spells`: the written forms, and the quantity that each of them stands for.
* `Quantity.read?_eq_some_iff`: they are what is read.
* `accepts_spelled_quantities`: which texts give a number of bytes, and what is said of all others. -/

namespace NodeVolumes

theorem parseBytes_eq_ok_iff {raw : String} {bytes : Int} : parseBytes raw = .ok bytes ↔
    (Quantity.read? raw).bind Quantity.bytes? = some bytes := by
  unfold parseBytes
  cases (Quantity.read? raw).bind Quantity.bytes? <;> simp

/-! ### Units -/

/-- The units with a name. -/
def namedUnits : List (String × Scale) :=
  [("", .decimal 0), ("m", .milli), ("k", .decimal 1), ("M", .decimal 2), ("G", .decimal 3), ("T", .decimal 4),
    ("P", .decimal 5), ("E", .decimal 6), ("Ki", .binary 1), ("Mi", .binary 2), ("Gi", .binary 3), ("Ti", .binary 4),
    ("Pi", .binary 5), ("Ei", .binary 6)]

/-- A unit: one with a name, or a power of ten that is a signed word of 32 bits. -/
inductive SpellsScale : List Char → Scale → Prop
  | named {name : String} {scale : Scale} (mem : (name, scale) ∈ namedUnits) : SpellsScale name.toList scale
  | power {mark : Char} {cs : List Char} {p : Int} (marked : mark = 'e' ∨ mark = 'E') (spells : SpellsInt cs p)
      (fits : -2 ^ 31 ≤ p ∧ p < 2 ^ 31) : SpellsScale (mark :: cs) (.tenTo p)

variable {cs : List Char} {d : Decimal} {scale : Scale} {q q' : Quantity} {p : Int}

namespace Scale

theorem spells_of_named (h : ∃ e ∈ namedUnits, e.1.toList = cs ∧ e.2 = scale) : SpellsScale cs scale := by
  obtain ⟨e, hmem, rfl, rfl⟩ := h
  exact .named hmem

theorem readPower?_eq_some_iff : readPower? cs = some scale ↔
    ∃ p, SpellsInt cs p ∧ (-2 ^ 31 ≤ p ∧ p < 2 ^ 31) ∧ scale = .tenTo p := by
  unfold readPower?
  split
  case h_1 p hp =>
    have hspells := readInt?_eq_some_iff.1 hp
    split
    case isTrue hfits =>
      refine ⟨fun h => ⟨p, hspells, by omega, (Option.some_inj.1 h).symm⟩, ?_⟩
      rintro ⟨p', hspells', -, rfl⟩
      rw [readInt?_eq_some_iff.2 hspells', Option.some_inj] at hp
      rw [hp]
    case isFalse hfits =>
      refine iff_of_false nofun ?_
      rintro ⟨p', hspells', hfits', -⟩
      rw [readInt?_eq_some_iff.2 hspells', Option.some_inj] at hp
      omega
  case h_2 hnone =>
    refine iff_of_false nofun ?_
    rintro ⟨p, hspells, -, -⟩
    rw [readInt?_eq_some_iff.2 hspells] at hnone
    cases hnone

theorem ne_of_spellsInt (h : SpellsInt cs p) : cs ≠ [] ∧ cs ≠ ['i'] := by
  have hne {ds : List Char} (hdigits : IsDigits ds) : ds ≠ [] ∧ ds ≠ ['i'] := by
    refine ⟨hdigits.1, ?_⟩
    rintro rfl
    exact absurd (hdigits.2 'i' (List.mem_singleton_self _)) (by decide)
  cases h with
  | unsigned hdigits => exact hne hdigits
  | plus hdigits => simp
  | minus hdigits => simp

theorem read?_of_mark {mark : Char} (hmark : mark = 'e' ∨ mark = 'E') (hcs : cs ≠ [] ∧ cs ≠ ['i']) :
    read? (mark :: cs) = readPower? cs := by
  unfold read?
  rcases hmark with rfl | rfl
  · rfl
  · split <;> simp_all

/-- What is read as a unit is one in its written form. -/
theorem read?_eq_some_iff : read? cs = some scale ↔ SpellsScale cs scale := by
  constructor
  · intro h
    unfold read? at h
    split at h
    case h_15 | h_16 =>
      obtain ⟨p, hspells, hfits, rfl⟩ := readPower?_eq_some_iff.1 h
      exact .power (by simp) hspells hfits
    case h_17 => cases h
    all_goals
      cases h
      exact spells_of_named (by decide +kernel)
  · intro h
    cases h with
    | named mem =>
      have hread : ∀ e ∈ namedUnits, read? e.1.toList = some e.2 := by decide +kernel
      exact hread _ mem
    | @power mark cs p marked spells fits =>
      rw [read?_of_mark marked (ne_of_spellsInt spells)]
      exact readPower?_eq_some_iff.2 ⟨p, spells, fits, rfl⟩

end Scale

/-! ### Quantities -/

namespace Quantity

/-- A quantity: a plus sign or none, a numeral and a unit. -/
inductive Spells : List Char → Quantity → Prop
  | mk {sign ds us : List Char} {d : Decimal} {scale : Scale} (signed : sign = [] ∨ sign = ['+'])
      (number : SpellsDecimal ds d) (unit : SpellsScale us scale) : Spells (sign ++ ds ++ us) ⟨d, scale⟩

theorem readNumber?_eq_some_iff : readNumber? cs = some d ↔
    ∃ sign ds, cs = sign ++ ds ∧ (sign = [] ∨ sign = ['+']) ∧ SpellsDecimal ds d := by
  constructor
  · intro h
    unfold readNumber? at h
    split at h
    · exact ⟨['+'], _, rfl, .inr rfl, Decimal.unsigned?_eq_some_iff.1 h⟩
    · exact ⟨[], cs, rfl, .inl rfl, Decimal.unsigned?_eq_some_iff.1 h⟩
  · rintro ⟨sign, ds, rfl, rfl | rfl, hspells⟩
    · rw [List.nil_append]
      unfold readNumber?
      split
      case h_1 rest =>
        -- a numeral has no sign of its own
        exact absurd (hspells.isDigit_or_eq '+' (List.mem_cons_self ..)) (by decide)
      case h_2 => exact Decimal.unsigned?_eq_some_iff.2 hspells
    · exact Decimal.unsigned?_eq_some_iff.2 hspells

theorem isNumeralChar_of_spells {sign ds : List Char} (signed : sign = [] ∨ sign = ['+'])
    (number : SpellsDecimal ds d) : ∀ c ∈ sign ++ ds, isNumeralChar c = true := by
  intro c hc
  unfold isNumeralChar
  rcases List.mem_append.1 hc with hc | hc
  · rcases signed with rfl | rfl
    · cases hc
    · cases List.mem_singleton.1 hc
      rfl
  · rcases number.isDigit_or_eq c hc with hdigit | rfl
    · rw [hdigit]
      rfl
    · rfl

theorem not_isNumeralChar_of_spells (h : SpellsScale cs scale) : ∀ c ∈ cs.head?, isNumeralChar c = false := by
  cases h with
  | named mem =>
    have hnamed : ∀ e ∈ namedUnits, e.1.toList.head?.any isNumeralChar = false := by decide +kernel
    intro c hc
    have hany := hnamed _ mem
    rwa [Option.mem_def.1 hc, Option.any_some] at hany
  | power marked spells fits =>
    intro c hc
    cases hc
    rcases marked with rfl | rfl <;> rfl

theorem span_append {ns us : List Char} (hns : ∀ c ∈ ns, isNumeralChar c = true)
    (hus : ∀ c ∈ us.head?, isNumeralChar c = false) :
    (ns ++ us).takeWhile isNumeralChar = ns ∧ (ns ++ us).dropWhile isNumeralChar = us := by
  rw [List.takeWhile_append_of_pos hns, List.dropWhile_append_of_pos hns]
  cases us with
  | nil => simp
  | cons c us =>
    have hc : isNumeralChar c = false := hus c rfl
    simp [hc]

theorem readChars?_eq_some_iff : readChars? cs = some q ↔ Spells cs q := by
  constructor
  · intro h
    obtain ⟨d, hnumber, h⟩ := Option.bind_eq_some_iff.1 h
    obtain ⟨scale, hscale, h⟩ := Option.bind_eq_some_iff.1 h
    cases h
    obtain ⟨sign, ds, hcs, hsign, hspells⟩ := readNumber?_eq_some_iff.1 hnumber
    rw [← List.takeWhile_append_dropWhile (p := isNumeralChar) (l := cs), hcs]
    exact .mk hsign hspells (Scale.read?_eq_some_iff.1 hscale)
  · rintro ⟨hsign, hnumber, hunit⟩
    obtain ⟨htake, hdrop⟩ := span_append (isNumeralChar_of_spells hsign hnumber) (not_isNumeralChar_of_spells hunit)
    unfold readChars?
    rw [htake, hdrop, readNumber?_eq_some_iff.2 ⟨_, _, rfl, hsign, hnumber⟩, Scale.read?_eq_some_iff.2 hunit]
    rfl

theorem read?_eq_some_iff {raw : String} : read? raw = some q ↔ Spells (Text.trimChars raw.toList) q :=
  readChars?_eq_some_iff

theorem Spells.unique (h : Spells cs q) (h' : Spells cs q') : q = q' := by
  rw [← readChars?_eq_some_iff] at h h'
  exact Option.some_inj.1 (h.symm.trans h')

/-- The number of bytes as it is worked out: the product in double precision, rounded up. -/
def computed (q : Quantity) : Binary64 := q.product.ceil

theorem computed_eq_finite_iff {n : Rat} : q.computed = .finite n ↔ ∃ r, q.product = .finite r ∧ r.ceil = n := by
  unfold computed
  cases q.product <;> simp [Binary64.ceil]

theorem bytes?_eq_some_iff_computed (hq : 0 ≤ q.number.value) {bytes : Int} : q.bytes? = some bytes ↔
    ∃ n : Int, q.computed = .finite n ∧ n ≤ 2 ^ 63 ∧ bytes = min Binary64.maxInt64 n := by
  have hlimit (r : Rat) : r.ceil ≤ 2 ^ 63 ↔ r ≤ 2 ^ 63 := by
    rw [Rat.ceil_le_iff]
    norm_num
  rw [bytes?_eq_some_iff hq]
  constructor
  · rintro ⟨r, hr, hle, rfl⟩
    exact ⟨r.ceil, computed_eq_finite_iff.2 ⟨r, hr, rfl⟩, (hlimit r).2 hle, rfl⟩
  · rintro ⟨n, hn, hle, rfl⟩
    obtain ⟨r, hr, hceil⟩ := computed_eq_finite_iff.1 hn
    obtain rfl : r.ceil = n := by exact_mod_cast hceil
    exact ⟨r, hr, (hlimit r).1 hle, rfl⟩

end Quantity

/-- A text stands for a number of bytes exactly when it is, blanks around it apart, a quantity in its written form whose
computed number of bytes is finite and at most two to the power 63; that number comes out, the greatest word for the
limit itself, and it is never negative. Every other text is reported as no quantity. -/
theorem accepts_spelled_quantities (raw : String) :
    (∀ bytes, parseBytes raw = .ok bytes ↔
      ∃ (q : Quantity) (n : Int), Quantity.Spells (Text.trimChars raw.toList) q ∧ q.computed = .finite n ∧
        n ≤ 2 ^ 63 ∧ bytes = min Binary64.maxInt64 n) ∧
    (∀ bytes, parseBytes raw = .ok bytes → 0 ≤ bytes) ∧
    ((¬∃ (q : Quantity) (n : Int), Quantity.Spells (Text.trimChars raw.toList) q ∧ q.computed = .finite n ∧
        n ≤ 2 ^ 63) →
      parseBytes raw = .error (.capacityParse ("invalid quantity " ++ Text.quoted raw))) := by
  have hok (bytes : Int) : parseBytes raw = .ok bytes ↔
      ∃ (q : Quantity) (n : Int), Quantity.Spells (Text.trimChars raw.toList) q ∧ q.computed = .finite n ∧
        n ≤ 2 ^ 63 ∧ bytes = min Binary64.maxInt64 n := by
    rw [parseBytes_eq_ok_iff, Option.bind_eq_some_iff]
    constructor
    · rintro ⟨q, hread, hbytes⟩
      obtain ⟨n, hn⟩ := (Quantity.bytes?_eq_some_iff_computed (Quantity.number_nonneg_of_read? hread)).1 hbytes
      exact ⟨q, n, Quantity.read?_eq_some_iff.1 hread, hn⟩
    · rintro ⟨q, n, hspells, hn⟩
      have hread := Quantity.read?_eq_some_iff.2 hspells
      exact ⟨q, hread, (Quantity.bytes?_eq_some_iff_computed (Quantity.number_nonneg_of_read? hread)).2 ⟨n, hn⟩⟩
  refine ⟨hok, fun bytes => parseBytes_nonneg, fun hnone => ?_⟩
  cases hparse : parseBytes raw with
  | ok bytes =>
    obtain ⟨q, n, hspells, hn, hlimit, -⟩ := (hok bytes).1 hparse
    exact absurd ⟨q, n, hspells, hn, hlimit⟩ hnone
  | error e => rw [eq_capacityParse_of_parseBytes hparse]

end NodeVolumes
