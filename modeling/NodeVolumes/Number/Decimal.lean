import NodeVolumes.Number.Binary64

/-! # Decimal numerals

* `Decimal.unsigned?` reads digits with at most one point and at least one digit.
* `Decimal.scientific?` reads a numeral with a sign and a power of ten as well.
* `Decimal.value` is the exact value, `Decimal.toBinary64` the nearest number of double precision.
* `Decimal.inSteps` is the number of double precision found by rounding the digits and their scaling.
* `readInt?` reads a whole number with an optional sign. -/

namespace NodeVolumes

/-- The number that a row of decimal digits stands for. -/
def digitsValue (cs : List Char) : Nat := cs.foldl (fun n c => 10 * n + (c.toNat - 48)) 0

/-- A whole number: an optional sign and decimal digits, at least one. -/
def readInt? (cs : List Char) : Option Int :=
  match cs with
  | '-' :: ds => (readNat? ds).map fun n => -(n : Int)
  | '+' :: ds => (readNat? ds).map fun n => (n : Int)
  | ds => (readNat? ds).map fun n => (n : Int)
where
  /-- A row of decimal digits, at least one. -/
  readNat? (ds : List Char) : Option Nat :=
    if ds.isEmpty || !ds.all Char.isDigit then none else some (digitsValue ds)

/-- A decimal numeral: its digits, read as one whole number, times a power of ten. -/
structure Decimal where
  negative : Bool
  digits : Nat
  power : Int
  deriving DecidableEq, Repr

namespace Decimal

/-- The exact value of a numeral. -/
def value (d : Decimal) : Rat :=
  let magnitude := (d.digits : Rat) * (10 : Rat) ^ d.power
  if d.negative then -magnitude else magnitude

/-- The parts of a numeral without sign before and after its point. -/
def parts (cs : List Char) : List Char × List Char :=
  (cs.takeWhile (· != '.'), (cs.dropWhile (· != '.')).drop 1)

/-- Reads digits with at most one point and at least one digit. -/
def unsigned? (cs : List Char) : Option Decimal :=
  let (whole, fraction) := parts cs
  if whole.all Char.isDigit && fraction.all Char.isDigit &&
      !(whole.isEmpty && fraction.isEmpty) then
    some ⟨false, digitsValue (whole ++ fraction), -(fraction.length : Int)⟩
  else none

/-- Reads a numeral with an optional sign and an optional power of ten after `e` or `E`. -/
def scientific? (cs : List Char) : Option Decimal :=
  let (negative, body) := match cs with
    | '-' :: r => (true, r)
    | '+' :: r => (false, r)
    | r => (false, r)
  let isMark (c : Char) := c == 'e' || c == 'E'
  match unsigned? (body.takeWhile fun c => !isMark c), body.dropWhile fun c => !isMark c with
  | some d, [] => some ⟨negative, d.digits, d.power⟩
  | some d, _ :: power => (readInt? power).map fun p => ⟨negative, d.digits, d.power + p⟩
  | none, _ => none

/-- The number of decimal digits of a positive number. -/
def width (n : Nat) : Nat := (Nat.toDigits 10 n).length

/-- The number of double precision nearest to a numeral. A numeral that is plainly past the range,
or plainly below half its least number, is decided by its length. -/
def toBinary64 (d : Decimal) : Binary64 :=
  let top : Int := width d.digits + d.power
  if d.digits = 0 then .finite 0
  else if 400 < top then .infinite d.negative
  else if top < -400 then .finite 0
  else .nearest d.value

/-! ### Rounding in steps -/

/-- The leading digits of a number that fit into a word of 64 bits, and how many follow them. -/
def leading (n : Nat) : Nat × Nat :=
  if _h : n < UInt64.size then (n, 0)
  else
    let (m, dropped) := leading (n / 10)
    (m, dropped + 1)
termination_by n
decreasing_by
  have hsize : 0 < UInt64.size := by decide
  omega

/-- The greatest power of ten in the range of double precision. -/
def topTen : Nat := 308

/-- A number divided by a power of ten, in steps of at most the greatest power in the range. -/
def descend (x : Binary64) (power : Nat) : Nat → Binary64
  | 0 => .finite 0
  | fuel + 1 =>
    if power ≤ topTen then x / .nearest (10 ^ power)
    else descend (x / .nearest (10 ^ topTen)) (power - topTen) fuel

/-- The number of double precision for a numeral without its sign, with a rounding at each step: the
leading digits, and then their product with a power of ten or their quotient by one. -/
def inSteps (d : Decimal) : Binary64 :=
  let (digits, dropped) := leading d.digits
  let power := d.power + dropped
  if digits = 0 then .finite 0
  else if power < 0 then descend (.nearest digits) power.natAbs 4
  else if power ≤ topTen then .nearest digits * .nearest ((10 : Rat) ^ power)
  else .infinite false

example : (unsigned? "1.50".toList).map (·.digits) = some 150 := by decide +kernel
example : unsigned? ".".toList = none := by decide +kernel
example : (scientific? "-2.5e-3".toList).map (·.value) = some (-1 / 400) := by decide +kernel
example : leading 123456789012345678901 = (12345678901234567890, 1) := by decide +kernel
example : (Decimal.mk false 1 (-400)).inSteps = .finite 0 := by decide +kernel

end Decimal
end NodeVolumes
