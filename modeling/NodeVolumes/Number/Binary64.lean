/-! # Numbers of double precision

A number of 64 bits as its exact value: every operation computes the exact rational result and
rounds it once, to the nearest number with 53 significant bits, a tie to the even one.

* `Binary64.nearest` is that rounding; the operations are the exact ones followed by it.
* Sign of zero apart, this is the arithmetic of the format; no use here depends on that sign. -/

namespace NodeVolumes

/-- A number of double precision: a rational of the format, an infinity, or no number. -/
inductive Binary64 where
  | finite (value : Rat)
  | infinite (negative : Bool)
  | undefined
  deriving DecidableEq, Repr

namespace Binary64

/-! ### Rounding -/

/-- The whole number next to a rational, a tie to the even one. -/
def roundHalfEven (q : Rat) : Int :=
  let below := q.floor
  let part := q - below
  if part < 1 / 2 then below
  else if 1 / 2 < part then below + 1
  else if below % 2 = 0 then below else below + 1

/-- The binary exponent of a positive rational: the greatest `e` with `2 ^ e ≤ q`. -/
def exponent (q : Rat) : Int :=
  let guess : Int := (Nat.log2 q.num.natAbs : Int) - (Nat.log2 q.den : Int)
  if (2 : Rat) ^ guess ≤ q then guess else guess - 1

/-- The exponent of the last bit that a positive rational keeps: 52 below its first one, but never
below the least bit of the format. -/
def lastBit (q : Rat) : Int := max (exponent q - 52) (-1074)

/-- The first value past the format's range. -/
def limit : Rat := (2 : Rat) ^ (1024 : Nat)

/-- The number of the format nearest to a rational. -/
def nearest (q : Rat) : Binary64 :=
  if q = 0 then finite 0
  else
    let magnitude := if q < 0 then -q else q
    let unit : Rat := (2 : Rat) ^ lastBit magnitude
    let rounded : Rat := (roundHalfEven (magnitude / unit) : Rat) * unit
    if limit ≤ rounded then infinite (q < 0)
    else finite (if q < 0 then -rounded else rounded)

/-- The number nearest to a whole number. -/
def ofInt (n : Int) : Binary64 := nearest n

/-! ### Operations -/

/-- Tells the negative numbers. -/
def isNegative : Binary64 → Bool
  | finite q => q < 0
  | infinite negative => negative
  | undefined => false

/-- Tells zero. -/
def isZero : Binary64 → Bool
  | finite q => q = 0
  | _ => false

/-- The product, rounded. -/
def mul : Binary64 → Binary64 → Binary64
  | finite a, finite b => nearest (a * b)
  | undefined, _ | _, undefined => undefined
  | a, b => if a.isZero || b.isZero then undefined else infinite (a.isNegative != b.isNegative)

/-- The sum, rounded. -/
def add : Binary64 → Binary64 → Binary64
  | finite a, finite b => nearest (a + b)
  | undefined, _ | _, undefined => undefined
  | infinite a, infinite b => if a = b then infinite a else undefined
  | infinite a, finite _ => infinite a
  | finite _, infinite b => infinite b

/-- The quotient by a number that is not zero, rounded. -/
def div : Binary64 → Binary64 → Binary64
  | finite a, finite b => if b = 0 then undefined else nearest (a / b)
  | undefined, _ | _, undefined => undefined
  | infinite _, infinite _ => undefined
  | infinite a, finite b => infinite (a != (b < 0))
  | finite _, infinite _ => finite 0

instance : Mul Binary64 := ⟨mul⟩
instance : Add Binary64 := ⟨add⟩
instance : Div Binary64 := ⟨div⟩

/-- The least whole number not below a number. -/
def ceil : Binary64 → Binary64
  | finite q => finite q.ceil
  | other => other

/-- The number, but at most `bound`; no number becomes the bound. -/
def atMost (x : Binary64) (bound : Rat) : Binary64 :=
  match x with
  | finite q => if q ≤ bound then finite q else finite bound
  | infinite negative => if negative then infinite true else finite bound
  | undefined => finite bound

/-- Ten to a whole power, by repeated squaring of the base; a negative power is the reciprocal of
the positive one. -/
def tenPow (power : Int) : Binary64 :=
  let positive := squarings power.natAbs (finite 10) (finite 1)
  if power < 0 then finite 1 / positive else positive
where
  /-- The result so far times the base to the power `n`. -/
  squarings (n : Nat) (base result : Binary64) : Binary64 :=
    let result := if n % 2 = 1 then result * base else result
    if _h : n / 2 = 0 then result else squarings (n / 2) (base * base) result
  termination_by n
  decreasing_by omega

/-! ### Conversion to words -/

/-- The greatest signed word of 64 bits. -/
def maxInt64 : Int := 9223372036854775807

/-- The least signed word of 64 bits. -/
def minInt64 : Int := -9223372036854775808

/-- The whole part as a signed word of 64 bits, clamped to its range. -/
def toInt64 : Binary64 → Int
  | finite q =>
    let whole := if q < 0 then -((-q).floor) else q.floor
    max minInt64 (min maxInt64 whole)
  | infinite negative => if negative then minInt64 else maxInt64
  | undefined => 0

example : nearest (1 / 10) = finite (3602879701896397 / 36028797018963968) := by decide +kernel
example : nearest 9007199254740993 = finite 9007199254740992 := by decide +kernel
example : (tenPow (-400)) = finite 0 := by decide +kernel

end Binary64
end NodeVolumes
