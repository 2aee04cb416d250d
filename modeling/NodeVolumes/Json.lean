import NodeVolumes.KeyMap
import NodeVolumes.Number.Decimal

/-! # JSON values

The documents that the API server keeps, and the form in which typed objects are read and
written. Readers take a member of the wrong shape, and a `null`, for an absent one.

* `Json.member?` looks a member up; `Json.ofFields` builds an object from the members that are set.
* `Json.applyPatch` is the JSON merge patch. -/

namespace NodeVolumes

/-- A JSON value; a number is kept as the numeral that it is written as. -/
inductive Json where
  | null
  | bool (value : Bool)
  | number (numeral : Decimal)
  | string (text : String)
  | array (items : List Json)
  | object (members : List (String × Json))
  deriving Repr, Inhabited

namespace Json

/-! ### Equality -/

mutual

/-- Tells whether two values are the same. -/
def same : Json → Json → Bool
  | null, null => true
  | bool a, bool b => a = b
  | number a, number b => a = b
  | string a, string b => a = b
  | array xs, array ys => sameItems xs ys
  | object ms, object ns => sameMembers ms ns
  | _, _ => false

/-- Tells whether two rows of items are the same. -/
def sameItems : List Json → List Json → Bool
  | [], [] => true
  | x :: xs, y :: ys => same x y && sameItems xs ys
  | _, _ => false

/-- Tells whether two rows of members are the same. -/
def sameMembers : List (String × Json) → List (String × Json) → Bool
  | [], [] => true
  | (k, x) :: ms, (l, y) :: ns => k = l && same x y && sameMembers ms ns
  | _, _ => false

end

mutual

theorem same_iff : (a b : Json) → (same a b = true ↔ a = b)
  | null, b => by cases b <;> simp [same]
  | bool _, b => by cases b <;> simp [same]
  | number _, b => by cases b <;> simp [same]
  | string _, b => by cases b <;> simp [same]
  | array xs, b => by cases b <;> simp [same, sameItems_iff xs]
  | object ms, b => by cases b <;> simp [same, sameMembers_iff ms]

theorem sameItems_iff : (xs ys : List Json) → (sameItems xs ys = true ↔ xs = ys)
  | [], ys => by cases ys <;> simp [sameItems]
  | x :: xs, ys => by cases ys <;> simp [sameItems, same_iff x, sameItems_iff xs]

theorem sameMembers_iff : (ms ns : List (String × Json)) → (sameMembers ms ns = true ↔ ms = ns)
  | [], ns => by cases ns <;> simp [sameMembers]
  | (k, x) :: ms, ns => by
    cases ns <;> simp [sameMembers, same_iff x, sameMembers_iff ms, Prod.ext_iff]

end

instance : DecidableEq Json := fun a b => decidable_of_iff _ (same_iff a b)

/-! ### Reading -/

/-- The members of an object, none for another value. -/
def members : Json → List (String × Json)
  | object ms => ms
  | _ => []

/-- The member of an object under a key; `null` counts as absent. -/
def member? (j : Json) (key : String) : Option Json :=
  match j.members.lookup key with
  | some null => none
  | other => other

/-- The text of a string. -/
def text? : Json → Option String
  | string s => some s
  | _ => none

/-- The value of a boolean. -/
def bool? : Json → Option Bool
  | bool b => some b
  | _ => none

/-- The value of a whole number. A zero with a sign is none. -/
def int? : Json → Option Int
  | number ⟨false, digits, 0⟩ => some digits
  | number ⟨true, digits + 1, 0⟩ => some (Int.negSucc digits)
  | _ => none

/-- The items of an array. -/
def items? : Json → Option (List Json)
  | array xs => some xs
  | _ => none

/-- The string under a key. -/
def text (j : Json) (key : String) : Option String := (j.member? key).bind text?

/-- The string under a key, empty when there is none. -/
def textD (j : Json) (key : String) : String := (j.text key).getD ""

/-- The boolean under a key. -/
def flag (j : Json) (key : String) : Option Bool := (j.member? key).bind bool?

/-- The whole number under a key. -/
def whole (j : Json) (key : String) : Option Int := (j.member? key).bind int?

/-- The strings of the array under a key. -/
def texts (j : Json) (key : String) : Option (List String) :=
  ((j.member? key).bind items?).map (·.filterMap text?)

/-- The value read from the member under a key. -/
def read {α : Type} (j : Json) (key : String) (f : Json → α) : Option α := (j.member? key).map f

/-- The values read from the items of the array under a key. -/
def readAll {α : Type} (j : Json) (key : String) (f : Json → α) : Option (List α) :=
  ((j.member? key).bind items?).map (·.map f)

/-! ### Writing -/

/-- The object of the members that are set. -/
def ofFields (fields : List (String × Option Json)) : Json :=
  .object (fields.filterMap fun (key, value) => value.map fun v => (key, v))

/-- A value with further members behind its own. -/
def withMembers (j : Json) (further : List (String × Json)) : Json := .object (j.members ++ further)

/-- The array of strings. -/
def ofTexts (xs : List String) : Json := .array (xs.map .string)

/-- The array of the written forms of values. -/
def ofList {α : Type} (f : α → Json) (xs : List α) : Json := .array (xs.map f)

/-- The number for a natural number. -/
def ofNat (n : Nat) : Json := .number ⟨false, n, 0⟩

/-- The number for a whole number. -/
def ofInt (n : Int) : Json := .number ⟨decide (n < 0), n.natAbs, 0⟩

/-! ### Maps of texts -/

/-- The members of an object that are strings. -/
def toTextMap (j : Json) : TextMap :=
  KeyMap.ofList (j.members.filterMap fun (key, value) => value.text?.map fun v => (key, v))

/-- The object with the entries of a map as members. -/
def ofTextMap (m : TextMap) : Json := .object (m.toList.map fun (key, v) => (key, .string v))

/-! ### Merge patches -/

/-- The members with one set, in place of an earlier one under its key. -/
def setMember (key : String) (value : Json) : List (String × Json) → List (String × Json)
  | [] => [(key, value)]
  | (k, v) :: rest =>
    if k = key then (key, value) :: rest else (k, v) :: setMember key value rest

mutual

/-- A value after a merge patch: an object changes the members that it names, `null` removes one,
and any other patch takes the value's place. -/
def applyPatch (target : Json) : Json → Json
  | .object patches => .object (patchMembers target.members patches)
  | .null => .null
  | .bool b => .bool b
  | .number d => .number d
  | .string s => .string s
  | .array xs => .array xs

/-- The members of an object after the patches for single members. -/
def patchMembers (ms : List (String × Json)) : List (String × Json) → List (String × Json)
  | [] => ms
  | (key, patch) :: rest =>
    let changed := match patch with
      | .null => ms.filter fun m => !decide (m.1 = key)
      | p => setMember key (applyPatch ((ms.lookup key).getD .null) p) ms
    patchMembers changed rest

end

/-- The value with a string set under a path of keys, objects made on the way. -/
def setText (j : Json) (path : List String) (value : String) : Json :=
  match path with
  | [] => .string value
  | key :: rest =>
    .object (setMember key (setText ((j.members.lookup key).getD .null) rest value) j.members)

end Json
end NodeVolumes
