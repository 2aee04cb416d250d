import NodeVolumes.Object.Timestamp

/-! # Schemas of objects

The API describes how an object of each type may look. A value of another shape is refused as a whole.
Members that a schema does not describe are dropped, a member that has to be there may be filled in, and
a moment is written in universal time. The rest stays as it is.

* `Schema` says how a value may look, `Presence` which members it needs.
* `Schema.normal?` gives the normal form of a value, none for a value of the wrong shape.
* `Schema.further` gives the members of an object that go beyond the known ones.
* `keys_normalFields`: the normal form has no member that its schema does not describe. -/

namespace NodeVolumes

/-- Whether a member has to be there, and what becomes of it when it is not. -/
inductive Presence where
  /-- It may be left out, and a `null` leaves it out. -/
  | optional
  /-- It is filled in when it is left out or `null`. -/
  | filled
  /-- It is filled in when it is left out, but must not be `null`. -/
  | defaulted
  /-- It must be there. -/
  | required
  deriving DecidableEq, Repr

/-- Tells the members that are filled in when they are left out. -/
def Presence.fills : Presence → Bool
  | filled | defaulted => true
  | optional | required => false

/-- Tells the members that may be `null`. -/
def Presence.allowsNull : Presence → Bool
  | optional | filled => true
  | defaulted | required => false

/-- How a value may look. -/
inductive Schema where
  | text
  | flag
  /-- A whole number within bounds. -/
  | whole (least greatest : Int)
  /-- A whole number of 32 bits or a text. -/
  | wholeOrText
  | time
  | anything
  /-- One text alone. -/
  | constant (value : String)
  /-- One of some names, bare or as the only key of an object, with `null` under it. -/
  | choice (names : List String)
  | list (item : Schema)
  /-- An object with any keys. -/
  | map (value : Schema)
  /-- An object with the given members. -/
  | object (fields : List (String × Presence × Schema))
  /-- An object with the given members, or an array of their values in the same order, which may end
  early. -/
  | record (fields : List (String × Presence × Schema))
  deriving Repr

namespace Schema

/-- Members of an object with their schemas. -/
abbrev Fields : Type := List (String × Presence × Schema)

/-- Members of one schema that are filled in. -/
def must (s : Schema) (keys : List String) : Fields := keys.map fun key => (key, .filled, s)

/-- Members of one schema that may be left out. -/
def may (s : Schema) (keys : List String) : Fields := keys.map fun key => (key, .optional, s)

/-- A member that is filled in when it is left out, but must not be `null`. -/
def withDefault (s : Schema) (key : String) : Fields := [(key, .defaulted, s)]

/-- A member that must be there. -/
def needed (s : Schema) (key : String) : Fields := [(key, .required, s)]

/-- A signed whole number of 32 bits. -/
def whole32 : Schema := whole (-2147483648) 2147483647

/-- A signed whole number of 64 bits. -/
def whole64 : Schema := whole (-9223372036854775808) 9223372036854775807

/-- A natural number of 64 bits. -/
def natural64 : Schema := whole 0 18446744073709551615

/-- A map of texts. -/
def textMap : Schema := map text

/-- A list of texts. -/
def texts : Schema := list text

mutual

/-- What stands for a value that is filled in. -/
def blank : Schema → Json
  | text | time => .string ""
  | flag => .bool false
  | whole .. | wholeOrText => Json.ofNat 0
  | anything => .null
  | constant value => .string value
  | choice names => .string (names.headD "")
  | list _ => .array []
  | map _ => .object []
  | object fields | record fields => .object (blankFields fields)

/-- The members of an object that are filled in. -/
def blankFields : Fields → List (String × Json)
  | [] => []
  | (key, presence, s) :: rest =>
    if presence.fills then (key, s.blank) :: blankFields rest else blankFields rest

end

/-- The whole number that a value is, if it lies within bounds. -/
def wholeWithin? (least greatest : Int) (j : Json) : Option Json :=
  (j.int?.filter fun n => least ≤ n && n ≤ greatest).map Json.ofInt

/-- What a member adds to the normal form: nothing, or its value under its key; none when it is of the
wrong shape, or left out and must be there. -/
def memberForm? (key : String) (presence : Presence) (blank : Json) (read : Json → Option Json)
    (found : Option Json) : Option (List (String × Json)) :=
  match found.filter fun j => !(j = .null && presence.allowsNull) with
  | some j => (read j).map fun v => [(key, v)]
  | none =>
    if presence.fills then some [(key, blank)] else if presence = .optional then some [] else none

mutual

/-- The normal form of a value. -/
def normal? : Schema → Json → Option Json
  | text, .string s => some (.string s)
  | flag, .bool b => some (.bool b)
  | whole least greatest, j => wholeWithin? least greatest j
  | wholeOrText, .string s => some (.string s)
  | wholeOrText, j => wholeWithin? (-2147483648) 2147483647 j
  | time, .string s => (Timestamp.ofText? s).map Timestamp.toJson
  | anything, j => some j
  | constant value, .string s => if s = value then some (.string s) else none
  | choice names, .string s => if names.contains s then some (.string s) else none
  | choice names, .object [(s, .null)] => if names.contains s then some (.string s) else none
  | list item, .array xs => (xs.mapM item.normal?).map .array
  | map value, .object ms =>
    (ms.mapM fun (m : String × Json) => (value.normal? m.2).map fun v => (m.1, v)).map .object
  | object fields, .object ms => (normalFields fields ms).map .object
  | record fields, .object ms => (normalFields fields ms).map .object
  | record fields, .array xs => (normalItems fields xs).map .object
  | _, _ => none

/-- The members of an object in the order of its schema. -/
def normalFields : Fields → List (String × Json) → Option (List (String × Json))
  | [], _ => some []
  | (key, presence, s) :: rest, ms => do
    let own ← memberForm? key presence s.blank s.normal? (ms.lookup key)
    return own ++ (← normalFields rest ms)

/-- The members of an object whose values stand in an array. -/
def normalItems : Fields → List Json → Option (List (String × Json))
  | [], [] => some []
  | [], _ :: _ => none
  | (key, presence, s) :: rest, xs => do
    let own ← memberForm? key presence s.blank s.normal? xs.head?
    return own ++ (← normalItems rest (xs.drop 1))

end

/-- What a member adds to the normal form stands under its key. -/
theorem key_memberForm? {key : String} {presence : Presence} {blank : Json}
    {read : Json → Option Json} {found : Option Json} {own : List (String × Json)}
    (h : memberForm? key presence blank read found = some own) {m : String × Json} (hm : m ∈ own) :
    m.1 = key := by
  unfold memberForm? at h
  split at h
  · obtain ⟨v, _, rfl⟩ := Option.map_eq_some_iff.1 h
    simp_all
  · split at h
    · obtain rfl := Option.some.inj h
      simp_all
    · split at h
      · obtain rfl := Option.some.inj h
        simp at hm
      · simp at h

/-- A member of the normal form is one that the schema describes. -/
theorem keys_normalFields {fields : Fields} {ms own : List (String × Json)}
    (h : normalFields fields ms = some own) {m : String × Json} (hm : m ∈ own) :
    m.1 ∈ fields.map (·.1) := by
  induction fields generalizing own with
  | nil =>
    obtain rfl := Option.some.inj h
    simp at hm
  | cons field rest ih =>
    obtain ⟨key, presence, s⟩ := field
    simp only [normalFields, Option.bind_eq_bind, Option.bind_eq_some_iff, Option.pure_def,
      Option.some.injEq] at h
    obtain ⟨first, hfirst, more, hmore, rfl⟩ := h
    rcases List.mem_append.1 hm with hm | hm
    · simp [key_memberForm? hfirst hm]
    · simp [ih hmore hm]

/-- A value in normal form, `null` for one of the wrong shape. -/
def tidy (s : Schema) (j : Json) : Json := (s.normal? j).getD .null

/-- The members of the normal form of an object whose keys are not among the known ones. -/
def further (s : Schema) (known : List String) (j : Json) : List (String × Json) :=
  (s.tidy j).members.filter fun m => !known.contains m.1

example : (object (must text ["name"] ++ may time ["since"])).normal?
    (.object [("since", .string "2024-01-02T03:04:05.9+02:00"), ("other", .bool true)]) =
    some (.object [("name", .string ""), ("since", .string "2024-01-02T01:04:05Z")]) := by
  decide +kernel
example : (object (may flag ["open"])).normal? (.object [("open", .string "yes")]) = none := by
  decide +kernel
example : (record (withDefault text "kind" ++ withDefault texts "links")).normal?
    (.array [.string "by-id"]) =
    some (.object [("kind", .string "by-id"), ("links", .array [])]) := by
  decide +kernel
example : (list whole32).normal? (.array [.number ⟨true, 0, 0⟩]) = none := by decide +kernel

end Schema
end NodeVolumes
