import NodeVolumes.Error
import NodeVolumes.Number.Decimal

/-! # Quota limits

A grace setting is a percentage of headroom above the requested capacity: `20%` on 10Gi allows 12Gi.
The quota tools take sizes in KiB, written `<n>k`.

* `toAbsolute` turns one setting into such a token; no setting gives `0k`, no limit.
* `resolveLimits` turns both and checks their order.
* `kibOfToken?` reads a token back as its number of KiB. -/

namespace NodeVolumes.HostPath

/-- The grace settings of a quota as the configuration writes them. -/
structure QuotaGrace where
  soft : String
  hard : String
  deriving DecidableEq, Repr

/-- The limits of a quota as the quota tools take them. -/
structure QuotaLimits where
  soft : String
  hard : String
  deriving DecidableEq, Repr

/-! ### Size tokens -/

/-- The token that sets no limit. -/
def unsetLimit : String := "0k"

/-- The token for a number of KiB. -/
def sizeToken (kib : Int) : String := toString kib ++ "k"

/-- Tells the tokens of decimal digits, at least one, followed by `k`. -/
def isSizeToken (token : String) : Bool :=
  match token.toList.reverse with
  | 'k' :: digits => digits ≠ [] && digits.all Char.isDigit
  | _ => false

/-- The number of KiB that a token of decimal digits and `k` denotes. -/
def kibOfToken? (token : String) : Option Nat :=
  if isSizeToken token then some (digitsValue token.toList.dropLast) else none

/-- Tells whether the first token is the greater one: longer, or equally long and later in the order
of texts. -/
def tokenExceeds (a b : String) : Bool :=
  b.length < a.length || (a.length = b.length && b < a)

/-- Both limits are size tokens. -/
def QuotaLimits.isWellFormed (limits : QuotaLimits) : Bool :=
  isSizeToken limits.soft && isSizeToken limits.hard

/-! ### Arithmetic -/

/-- The capacity with the given percentage added, in KiB and rounded up. -/
def grownKib (capacity : Int) (percent : Binary64) : Int :=
  let bytes := Binary64.ofInt capacity
  ((bytes + bytes * percent / .finite 100) / .finite 1024).ceil.toInt64

/-- The capacity in KiB, rounded up. -/
def capacityKib (capacity : Int) : Int := (Binary64.ofInt capacity / .finite 1024).ceil.toInt64

/-- The percentage of a grace setting: digits with at most one point before a final `%`. -/
def percentage? (grace : String) : Option Decimal :=
  match grace.toList.reverse with
  | '%' :: number => Decimal.unsigned? number.reverse
  | _ => none

/-- The limit for one grace setting; a percentage counts for 100 at most. -/
def toAbsolute (grace : String) (capacity : Int) : Except Error String :=
  if grace = "" then .ok unsetLimit
  else match percentage? grace with
    | none => .error (.invalidQuotaFormat grace)
    | some percent =>
      .ok (sizeToken (grownKib capacity ((Binary64.nearest percent.value).atMost 100)))

/-- The limits for both settings. Without any, both are the capacity itself; a single one leaves the
other unset. -/
def resolveLimits (grace : QuotaGrace) (capacity : Int) : Except Error QuotaLimits := do
  let soft ← toAbsolute grace.soft capacity
  let hard ← toAbsolute grace.hard capacity
  if soft = unsetLimit ∧ hard = unsetLimit then
    return ⟨sizeToken (capacityKib capacity), sizeToken (capacityKib capacity)⟩
  else if soft = unsetLimit ∨ hard = unsetLimit then return ⟨soft, hard⟩
  else if tokenExceeds soft hard then throw (.quotaLimitOrder soft hard)
  else return ⟨soft, hard⟩

example : (toAbsolute "20%" 10240).toOption = some "12k" := by decide +kernel
example : (toAbsolute ".5%" 1000).toOption = some "1k" := by decide +kernel

end NodeVolumes.HostPath
