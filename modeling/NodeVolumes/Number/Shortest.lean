import NodeVolumes.Number.Decimal

/-! # Shortest decimal text of a number

A number of double precision is written with the fewest digits that read back as the same number,
and of those with the nearest; of two equally near ones it is the greater. All digits are written
out, without a power of ten.

* `shortest` finds the digits and the power of ten of the last one.
* `positional` writes digits at a power of ten without an exponent. -/

namespace NodeVolumes

namespace Decimal

/-- The least `k` with `q < 10 ^ k`, for a positive rational, found upwards from a start. -/
def topPower (q : Rat) (k : Int) : Nat → Int
  | 0 => k
  | fuel + 1 => if q < (10 : Rat) ^ k then k else topPower q (k + 1) fuel

/-- Of the two points next to a positive number on the grid of a power of ten, those that read back
as the number. -/
def hits (q : Rat) (power : Int) : List Nat :=
  let below := (q / (10 : Rat) ^ power).floor.toNat
  [below, below + 1].filter fun n =>
    Binary64.nearest ((n : Rat) * (10 : Rat) ^ power) == Binary64.finite q

/-- The nearer of the points that read back, on the coarsest grid that has one; half-way between two
of them it is the greater. -/
def search (q : Rat) (power : Int) : Nat → Nat × Int
  | 0 => ((q / (10 : Rat) ^ power).floor.toNat, power)
  | fuel + 1 =>
    match hits q power with
    | [] => search q (power - 1) fuel
    | [n] => (n, power)
    | n :: _ =>
      let scaled := q / (10 : Rat) ^ power
      if scaled - n < 1 / 2 then (n, power) else (n + 1, power)

/-- The fewest digits of a positive number, as one whole number with its power of ten. -/
def shortest (q : Rat) : Nat × Int := search q (topPower q (-330) 700) 19

/-- Digits at a power of ten, written out in full. -/
def positional (digits : Nat) (power : Int) : String :=
  let ds := Nat.toDigits 10 digits
  if 0 ≤ power then String.ofList (ds ++ List.replicate power.toNat '0')
  else
    let places := (-power).toNat
    let padded := List.replicate (places + 1 - ds.length) '0' ++ ds
    let whole := padded.take (padded.length - places)
    let fraction := padded.drop (padded.length - places)
    String.ofList (whole ++ '.' :: fraction)

/-- The text of a number that is not negative. -/
def render (q : Rat) : String :=
  if q = 0 then "0"
  else
    let (digits, power) := shortest q
    positional digits power

example : render (1 / 2) = "0.5" := by decide +kernel
example : render (2251799813685249 / 4) = "562949953421312.3" := by decide +kernel
example : render 1000000000000000000000 = "1000000000000000000000" := by decide +kernel

end Decimal
end NodeVolumes
