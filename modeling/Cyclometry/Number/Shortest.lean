import Cyclometry.Number.Double

/-!
# The shortest decimal that reads back

Among the decimals that round to a given double precision number, one has the fewest digits,
and among those one lies nearest.  For 1, 2, … 17 digits the two neighbours of the number on
that decimal grid are tested against the interval of reals that round to it; the first grid
with a hit wins.  All arithmetic is exact.
-/

namespace Cyclometry.Double

/-- A decimal `0.d₁d₂… * 10 ^ point`. -/
structure Scientific where
  digits : List Char
  point : Int
  deriving DecidableEq, Repr

/-- A positive rational `num / den` divided by `10 ^ k`, as numerator and denominator. -/
def tenScaled (num den : Nat) (k : Int) : Nat × Nat :=
  if 0 ≤ k then (num, den * Nat.pow 10 k.toNat) else (num * Nat.pow 10 (-k).toNat, den)

/-- `10 ^ k ≤ num / den`. -/
def atLeastTen (num den : Nat) (k : Int) : Bool :=
  let (n, d) := tenScaled num den k
  decide (d ≤ n)

/-- The `k` with `10 ^ (k - 1) ≤ num / den < 10 ^ k`: an estimate from the number of digits,
which is at most one too large. -/
def decimalPoint (num den : Nat) : Int :=
  let k := ((Decimal.digits num).length : Int) - (Decimal.digits den).length + 1
  if atLeastTen num den (k - 1) then k else k - 1

/-- The interval of the reals that round to a positive number: its ends `low / den` and
`high / den`, whether they belong to it, and the number `num / den` itself. -/
structure Interval where
  low : Nat
  num : Nat
  high : Nat
  den : Nat
  closed : Bool

/-- The reals that round to `mantissa * 2 ^ exponent`.  Below a power of two the numbers lie
twice as dense. -/
def interval (mantissa : Nat) (exponent : Int) : Interval :=
  let (n, d) := ratio mantissa (exponent - 2)
  let unit := n / mantissa
  let below :=
    if mantissa = leastFull ∧ minExponent < exponent then unit else 2 * unit
  ⟨4 * n - below, 4 * n, 4 * n + 2 * unit, d, mantissa % 2 = 0⟩

/-- The grid point `c * 10 ^ k` lies in the interval. -/
def Interval.contains (i : Interval) (c : Nat) (k : Int) : Bool :=
  let (c, d) :=
    if 0 ≤ k then (c * Nat.pow 10 k.toNat * i.den, 1) else (c * i.den, Nat.pow 10 (-k).toNat)
  if i.closed then decide (i.low * d ≤ c) && decide (c ≤ i.high * d)
  else decide (i.low * d < c) && decide (c < i.high * d)

/-- The better neighbour of the number on the grid of step `10 ^ k`, if one of the two lies
in the interval. -/
def Interval.onGrid (i : Interval) (k : Int) : Option Nat :=
  let (n, d) := tenScaled i.num i.den k
  let below := n / d
  match i.contains below k, i.contains (below + 1) k with
  | true, true => some (roundDiv n d)
  | true, false => some below
  | false, true => some (below + 1)
  | false, false => none

/-- The digits without the zeros at their end. -/
def trimZeros (ds : List Char) : List Char :=
  (ds.reverse.dropWhile (· == '0')).reverse

/-- The first grid of `count`, `count + 1`, … digits with a hit. -/
def firstHit (i : Interval) (point : Int) (count : Nat) : Nat → Scientific
  | 0 => ⟨[], point⟩
  | more + 1 =>
    match i.onGrid (point - count) with
    | some c =>
      let ds := Decimal.digits c
      ⟨trimZeros ds, point + (ds.length - count)⟩
    | none => firstHit i point (count + 1) more

/-- The shortest decimal that reads back as `mantissa * 2 ^ exponent`, for a positive
mantissa. -/
def shortest (mantissa : Nat) (exponent : Int) : Scientific :=
  let i := interval mantissa exponent
  firstHit i (decimalPoint i.num i.den) 1 17

end Cyclometry.Double
