import NodeVolumes.KeyMap

/-! # Keys of objects

Objects in a namespace are kept under namespace and name, in the order of both.

* The order is total and two keys that compare as equal are equal, so a `KeyMap` takes such keys. -/

namespace NodeVolumes

/-- Where an object is kept. -/
structure ObjectKey where
  ns : String
  name : String
  deriving DecidableEq, Repr

namespace ObjectKey

/-- The order of keys: by namespace, then by name. -/
instance : Ord ObjectKey := ⟨compareLex (compareOn ns) (compareOn name)⟩

instance : Std.TransOrd ObjectKey :=
  inferInstanceAs (Std.TransCmp (compareLex (compareOn ns) (compareOn name)))

instance : Std.LawfulEqOrd ObjectKey where
  compare_self := Std.ReflCmp.compare_self
  eq_of_compare {a b} h := by
    have h' : (compare a.ns b.ns).then (compare a.name b.name) = .eq := h
    rw [Ordering.then_eq_eq] at h'
    have h1 := Std.LawfulEqCmp.eq_of_compare h'.1
    have h2 := Std.LawfulEqCmp.eq_of_compare h'.2
    cases a; cases b; simp_all

end ObjectKey
end NodeVolumes
