import NodeVolumes.Number.Shortest
import NodeVolumes.Yaml.Node

/-! # Values of scalars

A plain scalar may stand for nothing, a truth value or a number; other scalars are texts. A tag can
force one of these readings.

* `Value.ofPlain` reads a plain scalar.
* `Value.render?` writes a value as the text that the configuration keeps. -/

namespace NodeVolumes.Yaml

/-- What a scalar stands for. -/
inductive Value where
  | null
  | bool (b : Bool)
  | integer (n : Int)
  /-- A number of double precision, its sign apart. -/
  | real (negative : Bool) (magnitude : Rat)
  | infinity (negative : Bool)
  | undefined
  | text (s : String)
  deriving DecidableEq, Repr

namespace Value

/-- The spellings of nothing. -/
def isNull (s : String) : Bool := s == "null" || s == "Null" || s == "NULL" || s == "~"

/-- The spellings of a truth value. -/
def bool? (s : String) : Option Bool :=
  if s == "true" || s == "True" || s == "TRUE" then some true
  else if s == "false" || s == "False" || s == "FALSE" then some false
  else none

/-! ### Whole numbers -/

/-- The value of a digit, at most that of `f`. -/
def digit? (c : Char) : Option Nat :=
  if c.isDigit then some (c.toNat - 48)
  else if 'a' ≤ c && c ≤ 'f' then some (c.toNat - 87)
  else if 'A' ≤ c && c ≤ 'F' then some (c.toNat - 55)
  else none

/-- The number that digits of a base stand for, at least one. -/
def digits? (base : Nat) (cs : List Char) : Option Nat :=
  if cs.isEmpty then none
  else cs.foldlM (fun n c => do
    let d ← digit? c
    if d < base then some (base * n + d) else none) 0

/-- Tells several digits that start with a zero; they are no number. -/
def isPadded (cs : List Char) : Bool :=
  let body := match cs with
    | '-' :: r | '+' :: r => r
    | r => r
  match body with
  | '0' :: d :: r => (d :: r).all Char.isDigit
  | _ => false

/-- The number of digits behind a mark of their base, or of decimal digits. -/
def magnitude? (cs : List Char) : Option Nat :=
  match cs with
  | '0' :: 'x' :: r => digits? 16 r
  | '0' :: 'o' :: r => digits? 8 r
  | '0' :: 'b' :: r => digits? 2 r
  | r => if isPadded r then none else digits? 10 r

/-- The whole number that a text stands for: an optional sign and a magnitude. -/
def integer? (cs : List Char) : Option Int :=
  match cs with
  | '-' :: r => (magnitude? r).map fun n => -(n : Int)
  | '+' :: r => (magnitude? r).map fun n => (n : Int)
  | r => (magnitude? r).map fun n => (n : Int)

/-- The range of words of 128 bits with and without a sign; a whole number outside of it is read as
a number of double precision. -/
def isWord (n : Int) : Bool :=
  -170141183460469231731687303715884105728 ≤ n && n ≤ 340282366920938463463374607431768211455

/-! ### Numbers of double precision -/

/-- The number of double precision that a text stands for; one past the range is none. -/
def real? (s : String) : Option Value :=
  if s == ".inf" || s == ".Inf" || s == ".INF" || s == "+.inf" || s == "+.Inf" || s == "+.INF" then
    some (infinity false)
  else if s == "-.inf" || s == "-.Inf" || s == "-.INF" then some (infinity true)
  else if s == ".nan" || s == ".NaN" || s == ".NAN" then some undefined
  else match Decimal.scientific? s.toList with
    | none => none
    | some d =>
      match Decimal.toBinary64 { d with negative := false } with
      | .finite q => some (real d.negative q)
      | _ => none

/-- What a plain scalar stands for. -/
def ofPlain (s : String) : Value :=
  if s == "" || isNull s then null
  else match bool? s with
    | some b => bool b
    | none =>
      match (integer? s.toList).filter isWord with
      | some n => integer n
      | none => if isPadded s.toList then text s else (real? s).getD (text s)

/-- What a scalar stands for. A core tag forces its reading, and a local tag leaves it open, so that
there is none; a marked tag that is no text does not count, and any other one makes a text. -/
def ofScalar? (s : String) (style : Style) (tag : Option Tag) : Option Value :=
  let untagged := if style == .plain then ofPlain s else text s
  match tag with
  | none => some untagged
  | some t =>
    if t.isLocal then none
    else if t == Tag.core "bool" then (bool? s).map bool
    else if t == Tag.core "int" then ((integer? s.toList).filter isWord).map integer
    else if t == Tag.core "float" then real? s
    else if t == Tag.core "null" then if isNull s then some null else none
    else some (if t.isMarked then untagged else text s)

/-- A value as text. Nothing has no text; a whole number has one up to words of 64 bits, and above
the signed ones it is written as a number of double precision. -/
def render? : Value → Option String
  | null => none
  | bool b => some (if b then "true" else "false")
  | integer n =>
    if n < -9223372036854775808 ∨ 18446744073709551615 < n then none
    else if n ≤ 9223372036854775807 then some (toString n)
    else match Binary64.ofInt n with
      | .finite q => some (Decimal.render q)
      | _ => none
  | real negative q => some ((if negative then "-" else "") ++ Decimal.render q)
  | infinity negative => some (if negative then "-inf" else "inf")
  | undefined => some "NaN"
  | text s => some s

end Value
end NodeVolumes.Yaml
