/-! # Maps in key order

A map is the list of its entries in strictly ascending key order, so two maps are equal as soon
as they give the same answers, and every listing comes out in one order.

* `get?` is the view: one equation for each operation (`get?_empty`, `get?_insert`, `get?_erase`).
* `ext_get?`: maps with the same answers are equal.
* `ofList` keeps the last of several entries with one key. -/

namespace NodeVolumes

/-- A map from `κ` to `α`: its entries in ascending key order, at most one for each key. -/
structure KeyMap (κ α : Type) [Ord κ] where
  entries : List (κ × α)
  ascending : entries.Pairwise fun a b => compare a.1 b.1 = .lt

/-- A map from texts to texts, as labels and annotations are. -/
abbrev TextMap := KeyMap String String

namespace KeyMap

variable {κ α β : Type} [Ord κ]

instance [DecidableEq κ] [DecidableEq α] : DecidableEq (KeyMap κ α) := fun a b =>
  if h : a.entries = b.entries then
    .isTrue (by cases a; cases b; simp_all)
  else .isFalse fun e => h (congrArg entries e)

instance [Repr κ] [Repr α] : Repr (KeyMap κ α) := ⟨fun m n => reprPrec m.entries n⟩

/-- The map without entries. -/
def empty : KeyMap κ α := ⟨[], .nil⟩

instance : Inhabited (KeyMap κ α) := ⟨empty⟩

/-- The entries, in key order. -/
def toList (m : KeyMap κ α) : List (κ × α) := m.entries

/-- The keys, in order. -/
def keys (m : KeyMap κ α) : List κ := m.entries.map (·.1)

/-- The values, in the order of their keys. -/
def values (m : KeyMap κ α) : List α := m.entries.map (·.2)

/-- Tells whether the map has no entry. -/
def isEmpty (m : KeyMap κ α) : Bool := m.entries.isEmpty

/-! ### Looking up -/

/-- The value under `k` in a list of entries. -/
def lookupEntry [DecidableEq κ] (k : κ) : List (κ × α) → Option α
  | [] => none
  | (k', v) :: rest => if k' = k then some v else lookupEntry k rest

/-- The value under a key. -/
def get? [DecidableEq κ] (m : KeyMap κ α) (k : κ) : Option α := lookupEntry k m.entries

/-- Tells whether a key has a value. -/
def contains [DecidableEq κ] (m : KeyMap κ α) (k : κ) : Bool := (m.get? k).isSome

/-! ### Inserting -/

/-- The entries with `v` put under `k`, in the place that the order gives. -/
def insertEntry (k : κ) (v : α) : List (κ × α) → List (κ × α)
  | [] => [(k, v)]
  | (k', v') :: rest =>
    match compare k k' with
    | .lt => (k, v) :: (k', v') :: rest
    | .eq => (k, v) :: rest
    | .gt => (k', v') :: insertEntry k v rest

theorem mem_insertEntry {k : κ} {v : α} {e : κ × α} {l : List (κ × α)}
    (h : e ∈ insertEntry k v l) : e = (k, v) ∨ e ∈ l := by
  induction l with
  | nil => simpa [insertEntry] using h
  | cons hd tl ih =>
    obtain ⟨k', v'⟩ := hd
    simp only [insertEntry] at h
    split at h <;> grind

variable [Std.TransOrd κ] [Std.LawfulEqOrd κ]

theorem pairwise_insertEntry (k : κ) (v : α) {l : List (κ × α)}
    (h : l.Pairwise fun a b => compare a.1 b.1 = .lt) :
    (insertEntry k v l).Pairwise fun a b => compare a.1 b.1 = .lt := by
  induction l with
  | nil => simp [insertEntry]
  | cons hd tl ih =>
    obtain ⟨k', v'⟩ := hd
    rw [List.pairwise_cons] at h
    simp only [insertEntry]
    split
    case h_1 hlt =>
      refine .cons (fun e he => ?_) (.cons h.1 h.2)
      rcases List.mem_cons.1 he with rfl | he
      · exact hlt
      · exact Std.TransCmp.lt_trans hlt (h.1 e he)
    case h_2 heq =>
      have : k = k' := Std.LawfulEqCmp.eq_of_compare heq
      subst this
      exact .cons h.1 h.2
    case h_3 hgt =>
      refine .cons (fun e he => ?_) (ih h.2)
      rcases mem_insertEntry he with rfl | he
      · exact Std.OrientedCmp.gt_iff_lt.1 hgt
      · exact h.1 e he

/-- The map with `v` under `k`. -/
def insert (m : KeyMap κ α) (k : κ) (v : α) : KeyMap κ α :=
  ⟨insertEntry k v m.entries, pairwise_insertEntry k v m.ascending⟩

/-- The map with the given entries; of several with one key the last counts. -/
def ofList (l : List (κ × α)) : KeyMap κ α := l.foldl (fun m e => m.insert e.1 e.2) empty

/-- The map with one entry. -/
def singleton (k : κ) (v : α) : KeyMap κ α := empty.insert k v

/-- The first map overlaid with the entries of the second. -/
def union (a b : KeyMap κ α) : KeyMap κ α := b.entries.foldl (fun m e => m.insert e.1 e.2) a

/-! ### Removing and mapping -/

omit [Std.TransOrd κ] [Std.LawfulEqOrd κ] in
theorem pairwise_filter (p : κ × α → Bool) (m : KeyMap κ α) :
    (m.entries.filter p).Pairwise fun a b => compare a.1 b.1 = .lt :=
  m.ascending.filter p

/-- The entries that satisfy `p`. -/
def filter (p : κ × α → Bool) (m : KeyMap κ α) : KeyMap κ α :=
  ⟨m.entries.filter p, m.pairwise_filter p⟩

/-- The map without an entry for `k`. -/
def erase [DecidableEq κ] (m : KeyMap κ α) (k : κ) : KeyMap κ α :=
  m.filter fun e => !decide (e.1 = k)

omit [Std.TransOrd κ] [Std.LawfulEqOrd κ] in
theorem pairwise_map (f : α → β) (m : KeyMap κ α) :
    (m.entries.map fun e => (e.1, f e.2)).Pairwise fun a b => compare a.1 b.1 = .lt :=
  List.pairwise_map.2 m.ascending

/-- The map with every value replaced by its image. -/
def map (f : α → β) (m : KeyMap κ α) : KeyMap κ β :=
  ⟨m.entries.map fun e => (e.1, f e.2), m.pairwise_map f⟩

/-- The map with the value under `k` replaced by its image, if there is one. -/
def modify [DecidableEq κ] (m : KeyMap κ α) (k : κ) (f : α → α) : KeyMap κ α :=
  match m.get? k with
  | none => m
  | some v => m.insert k (f v)

/-! ### The view -/

omit [Std.TransOrd κ] [Std.LawfulEqOrd κ] in
@[simp] theorem get?_empty [DecidableEq κ] (k : κ) : (empty : KeyMap κ α).get? k = none := rfl

omit [Std.TransOrd κ] in
theorem lookupEntry_insertEntry [DecidableEq κ] (k j : κ) (v : α) (l : List (κ × α)) :
    lookupEntry j (insertEntry k v l) = if k = j then some v else lookupEntry j l := by
  induction l with
  | nil => simp [insertEntry, lookupEntry]
  | cons hd tl ih =>
    obtain ⟨k', v'⟩ := hd
    simp only [insertEntry]
    split
    case h_1 => simp [lookupEntry]
    case h_2 heq =>
      have : k = k' := Std.LawfulEqCmp.eq_of_compare heq
      subst this
      by_cases h : k = j <;> simp [lookupEntry, h]
    case h_3 hgt =>
      have hne : k' ≠ k := by
        rintro rfl
        simp [Std.ReflCmp.compare_self] at hgt
      simp only [lookupEntry, ih]
      by_cases h : k' = j
      · have : k ≠ j := fun e => hne (h.trans e.symm)
        simp [h, this]
      · simp [h]

theorem get?_insert [DecidableEq κ] (m : KeyMap κ α) (k j : κ) (v : α) :
    (m.insert k v).get? j = if k = j then some v else m.get? j :=
  lookupEntry_insertEntry k j v m.entries

@[simp] theorem get?_insert_self [DecidableEq κ] (m : KeyMap κ α) (k : κ) (v : α) :
    (m.insert k v).get? k = some v := by simp [get?_insert]

theorem get?_insert_of_ne [DecidableEq κ] (m : KeyMap κ α) {k j : κ} (h : k ≠ j) (v : α) :
    (m.insert k v).get? j = m.get? j := by simp [get?_insert, h]

omit [Ord κ] [Std.TransOrd κ] [Std.LawfulEqOrd κ] in
theorem lookupEntry_filter_ne [DecidableEq κ] (k j : κ) (l : List (κ × α)) :
    lookupEntry j (l.filter fun e => !decide (e.1 = k)) =
      if k = j then none else lookupEntry j l := by
  induction l with
  | nil => simp [lookupEntry]
  | cons hd tl ih =>
    obtain ⟨k', v'⟩ := hd
    by_cases h : k' = k
    · by_cases hj : k = j <;> simp_all [lookupEntry]
    · by_cases hj : k' = j
      · subst hj
        have : k ≠ k' := fun e => h e.symm
        simp [lookupEntry, h, this]
      · simp [lookupEntry, h, hj, ih]

omit [Std.TransOrd κ] [Std.LawfulEqOrd κ] in
theorem get?_erase [DecidableEq κ] (m : KeyMap κ α) (k j : κ) :
    (m.erase k).get? j = if k = j then none else m.get? j :=
  lookupEntry_filter_ne k j m.entries

omit [Ord κ] [Std.TransOrd κ] [Std.LawfulEqOrd κ] in
theorem lookupEntry_map [DecidableEq κ] (f : α → β) (k : κ) (l : List (κ × α)) :
    lookupEntry k (l.map fun e => (e.1, f e.2)) = (lookupEntry k l).map f := by
  induction l with
  | nil => rfl
  | cons hd tl ih =>
    obtain ⟨k', v'⟩ := hd
    by_cases h : k' = k <;> simp [lookupEntry, h, ih]

omit [Std.TransOrd κ] [Std.LawfulEqOrd κ] in
theorem get?_map [DecidableEq κ] (f : α → β) (m : KeyMap κ α) (k : κ) :
    (m.map f).get? k = (m.get? k).map f :=
  lookupEntry_map f k m.entries

theorem get?_modify [DecidableEq κ] (m : KeyMap κ α) (k j : κ) (f : α → α) :
    (m.modify k f).get? j = if k = j then (m.get? j).map f else m.get? j := by
  unfold modify
  split
  next h => by_cases hj : k = j <;> simp_all
  next h => by_cases hj : k = j <;> simp_all [get?_insert]

omit [Ord κ] [Std.TransOrd κ] [Std.LawfulEqOrd κ] in
theorem lookupEntry_isSome [DecidableEq κ] {l : List (κ × α)} {k : κ} :
    (lookupEntry k l).isSome ↔ k ∈ l.map (·.1) := by
  induction l with
  | nil => simp [lookupEntry]
  | cons hd tl ih =>
    obtain ⟨k', v'⟩ := hd
    by_cases h : k' = k
    · simp [lookupEntry, h]
    · have : k ≠ k' := fun e => h e.symm
      simp [lookupEntry, h, ih, this]

omit [Ord κ] [Std.TransOrd κ] [Std.LawfulEqOrd κ] in
theorem mem_of_lookupEntry [DecidableEq κ] {l : List (κ × α)} {k : κ} {v : α}
    (h : lookupEntry k l = some v) : (k, v) ∈ l := by
  induction l with
  | nil => simp [lookupEntry] at h
  | cons hd tl ih =>
    obtain ⟨k', v'⟩ := hd
    by_cases hk : k' = k
    · simp [lookupEntry, hk] at h; simp [hk, h]
    · simp [lookupEntry, hk] at h; exact List.mem_cons_of_mem _ (ih h)

omit [Std.TransOrd κ] in
theorem lookupEntry_of_mem [DecidableEq κ] {l : List (κ × α)}
    (hl : l.Pairwise fun a b => compare a.1 b.1 = .lt) {k : κ} {v : α} (h : (k, v) ∈ l) :
    lookupEntry k l = some v := by
  induction l with
  | nil => simp at h
  | cons hd tl ih =>
    obtain ⟨k', v'⟩ := hd
    rw [List.pairwise_cons] at hl
    rcases List.mem_cons.1 h with h | h
    · cases h; simp [lookupEntry]
    · have hne : k' ≠ k := by
        rintro rfl
        have := hl.1 _ h
        simp [Std.ReflCmp.compare_self] at this
      simp [lookupEntry, hne, ih hl.2 h]

omit [Std.TransOrd κ] in
/-- An entry is listed exactly when looking its key up gives its value. -/
theorem mem_toList_iff [DecidableEq κ] {m : KeyMap κ α} {k : κ} {v : α} :
    (k, v) ∈ m.toList ↔ m.get? k = some v :=
  ⟨lookupEntry_of_mem m.ascending, mem_of_lookupEntry⟩

omit [Std.TransOrd κ] in
theorem get?_filter [DecidableEq κ] (p : κ × α → Bool) (m : KeyMap κ α) (k : κ) :
    (m.filter p).get? k = (m.get? k).filter fun v => p (k, v) := by
  apply Option.ext
  intro v
  rw [← mem_toList_iff, Option.filter_eq_some_iff, ← mem_toList_iff]
  exact List.mem_filter

/-- Lists in strictly ascending key order with the same members are equal. -/
theorem eq_of_mem_iff {l l' : List (κ × α)}
    (h : l.Pairwise fun a b => compare a.1 b.1 = .lt)
    (h' : l'.Pairwise fun a b => compare a.1 b.1 = .lt) (hm : ∀ e, e ∈ l ↔ e ∈ l') : l = l' := by
  induction l generalizing l' with
  | nil =>
    cases l' with
    | nil => rfl
    | cons e t => exact absurd ((hm e).2 (by simp)) (by simp)
  | cons a t ih =>
    cases l' with
    | nil => exact absurd ((hm a).1 (by simp)) (by simp)
    | cons b s =>
      rw [List.pairwise_cons] at h h'
      have hab : a = b := by
        rcases List.mem_cons.1 ((hm a).1 (by simp)) with hab | has
        · exact hab
        rcases List.mem_cons.1 ((hm b).2 (by simp)) with hba | hbt
        · exact hba.symm
        · have h1 := h.1 b hbt
          have h2 := h'.1 a has
          have h3 := Std.TransCmp.lt_trans h1 h2
          simp [Std.ReflCmp.compare_self] at h3
      subst hab
      congr 1
      refine ih h.2 h'.2 fun e => ⟨fun he => ?_, fun he => ?_⟩
      · rcases List.mem_cons.1 ((hm e).1 (List.mem_cons_of_mem _ he)) with rfl | h4
        · have := h.1 e he
          simp [Std.ReflCmp.compare_self] at this
        · exact h4
      · rcases List.mem_cons.1 ((hm e).2 (List.mem_cons_of_mem _ he)) with rfl | h4
        · have := h'.1 e he
          simp [Std.ReflCmp.compare_self] at this
        · exact h4

/-- Maps that give the same answers are equal. -/
theorem ext_get? [DecidableEq κ] {a b : KeyMap κ α} (h : ∀ k, a.get? k = b.get? k) : a = b := by
  have : a.entries = b.entries := eq_of_mem_iff a.ascending b.ascending fun e => by
    obtain ⟨k, v⟩ := e
    have ha := mem_toList_iff (m := a) (k := k) (v := v)
    have hb := mem_toList_iff (m := b) (k := k) (v := v)
    simp only [toList] at ha hb
    rw [ha, hb, h k]
  cases a; cases b; simp_all

end KeyMap
end NodeVolumes
