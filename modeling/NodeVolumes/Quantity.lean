import NodeVolumes.Error
import NodeVolumes.Number.Decimal
import NodeVolumes.Text.Blank

/-! # Storage quantities

A quantity such as `5G`, `10Gi`, `1.5e3` or `500m` is a decimal numeral and a scale. It stands for
whole bytes, a fraction rounded up.

* `Quantity.read?` reads the written form.
* `Quantity.exact` is the rational number of bytes that it denotes.
* `Quantity.bytes?` is the number of bytes as double precision gives it, `none` past its limit.
* `parseBytes` joins them and words the error. -/

namespace NodeVolumes

/-- The unit after the numeral of a quantity. -/
inductive Scale where
  /-- One thousandth. -/
  | milli
  /-- A power of one thousand. -/
  | decimal (rank : Nat)
  /-- A power of 1024. -/
  | binary (rank : Nat)
  /-- A power of ten. -/
  | tenTo (power : Int)
  deriving DecidableEq, Repr

namespace Scale

/-- The number of bytes that a unit denotes. -/
def exact : Scale → Rat
  | milli => 1 / 1000
  | decimal rank => (1000 : Rat) ^ rank
  | binary rank => (1024 : Rat) ^ rank
  | tenTo power => (10 : Rat) ^ power

/-- The factor that the arithmetic uses for a unit. -/
def factor : Scale → Binary64
  | milli => .nearest (1 / 1000)
  | decimal rank => .nearest ((1000 : Rat) ^ rank)
  | binary rank => .nearest ((1024 : Rat) ^ rank)
  | tenTo power => .tenPow power

/-- The powers of ten that can be written: signed words of 32 bits. -/
def readPower? (cs : List Char) : Option Scale :=
  match readInt? cs with
  | some p => if -2147483648 ≤ p ∧ p ≤ 2147483647 then some (tenTo p) else none
  | none => none

/-- Reads the unit of a quantity; `E` alone is a unit, before a number it marks a power of ten. -/
def read? (cs : List Char) : Option Scale :=
  match cs with
  | [] => some (decimal 0)
  | ['m'] => some milli
  | ['k'] => some (decimal 1)
  | ['M'] => some (decimal 2)
  | ['G'] => some (decimal 3)
  | ['T'] => some (decimal 4)
  | ['P'] => some (decimal 5)
  | ['E'] => some (decimal 6)
  | ['K', 'i'] => some (binary 1)
  | ['M', 'i'] => some (binary 2)
  | ['G', 'i'] => some (binary 3)
  | ['T', 'i'] => some (binary 4)
  | ['P', 'i'] => some (binary 5)
  | ['E', 'i'] => some (binary 6)
  | 'e' :: power => readPower? power
  | 'E' :: power => readPower? power
  | _ => none

end Scale

/-- A quantity as it is written. -/
structure Quantity where
  number : Decimal
  scale : Scale
  deriving DecidableEq, Repr

namespace Quantity

/-- The characters that belong to the numeral of a quantity. -/
def isNumeralChar (c : Char) : Bool := c.isDigit || c == '.' || c == '+' || c == '-'

/-- Reads the numeral: an optional plus sign, digits and at most one point. -/
def readNumber? : List Char → Option Decimal
  | '+' :: r => Decimal.unsigned? r
  | r => Decimal.unsigned? r

/-- Reads a quantity without surrounding blanks. -/
def readChars? (cs : List Char) : Option Quantity := do
  let number ← readNumber? (cs.takeWhile isNumeralChar)
  let scale ← Scale.read? (cs.dropWhile isNumeralChar)
  return ⟨number, scale⟩

/-- Reads a quantity; blanks around it do not count. -/
def read? (raw : String) : Option Quantity := readChars? (Text.trimChars raw.toList)

/-- The number of bytes that a quantity denotes. -/
def exact (q : Quantity) : Rat := q.number.value * q.scale.exact

/-- The number of bytes as the product in double precision, rounded up; `none` when it is not
finite or above two to the power 63. -/
def bytes? (q : Quantity) : Option Int :=
  match (Binary64.nearest q.number.value * q.scale.factor).ceil with
  | .finite n => if n ≤ (2 : Rat) ^ (63 : Nat) then some (Binary64.finite n).toInt64 else none
  | _ => none

end Quantity

/-- The whole bytes that a quantity stands for. -/
def parseBytes (raw : String) : Except Error Int :=
  match (Quantity.read? raw).bind Quantity.bytes? with
  | some n => .ok n
  | none => .error (.capacityParse ("invalid quantity " ++ Text.quoted raw))

example : (parseBytes "1.5Gi").toOption = some 1610612736 := by decide +kernel
example : (parseBytes "1500m").toOption = some 2 := by decide +kernel
example : (parseBytes "10GB").toOption = none := by decide +kernel

end NodeVolumes
