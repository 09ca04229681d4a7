import ObjectQuery.Decimal.Binary

/-!
# Shortest decimals

A binary float stands for an interval of reals, those that round to it: from halfway to its
neighbour below to halfway to its neighbour above, with both ends if the significand is even. The
shortest decimal of a float is taken from the coarsest decimal grid that has a point in this
interval. If the points on both sides of the float lie in it, the nearer one is taken.

Everything is exact arithmetic on natural numbers, in units of a power of ten that divides the
float and both ends of its interval.
-/

namespace ObjectQuery

/-- The number `digits * 10 ^ exponent`. -/
structure Decimal where
  digits : Nat
  exponent : Int
deriving DecidableEq, Repr

namespace Decimal

/-- Which of two equally close decimals is taken. -/
inductive Tie where
  | toEven
  | upward
deriving DecidableEq, Repr

/-- The reals that round to a float, in units of `10 ^ unit`. -/
structure Interval where
  lower : Nat
  middle : Nat
  upper : Nat
  closed : Bool
  unit : Int
deriving Repr

/-- The interval of the float `significand * 2 ^ exponent`. The gap below is half the gap above
where the significand is the least one of its exponent and the exponent is not the least of all. -/
def Interval.around (significand : Nat) (exponent : Int) : Interval :=
  let quarter := exponent - 2
  let scale := Nat.pow 2 quarter.toNat * Nat.pow 5 (-quarter).toNat
  let below := if significand = Nat.pow 2 52 ∧ -1074 < exponent then 1 else 2
  { lower := (4 * significand - below) * scale
    middle := 4 * significand * scale
    upper := (4 * significand + 2) * scale
    closed := significand % 2 == 0
    unit := min quarter 0 }

def Interval.contains (interval : Interval) (n : Nat) : Bool :=
  if interval.closed then interval.lower ≤ n && n ≤ interval.upper
  else interval.lower < n && n < interval.upper

/-- The point of the grid `10 ^ power` that stands for the interval: of the two neighbours of the
middle the one inside, and the nearer one if both are. -/
def Interval.pointOn (interval : Interval) (tie : Tie) (power : Nat) : Option Nat :=
  let step := Nat.pow 10 power
  let low := interval.middle / step
  match interval.contains (low * step), interval.contains ((low + 1) * step) with
  | false, false => none
  | true, false => some low
  | false, true => some (low + 1)
  | true, true =>
      match compare (2 * interval.middle) ((2 * low + 1) * step), tie with
      | .lt, _ => some low
      | .gt, _ => some (low + 1)
      | .eq, .toEven => some (if low % 2 = 0 then low else low + 1)
      | .eq, .upward => some (low + 1)

/-- The point on the coarsest grid, from `10 ^ power` down, that has one in the interval. The middle
itself is such a point, on the grid of the units. -/
def Interval.coarsest (interval : Interval) (tie : Tie) : Nat → Decimal
  | 0 => ⟨interval.middle, interval.unit⟩
  | power + 1 =>
      match interval.pointOn tie (power + 1) with
      | some digits => ⟨digits, interval.unit + (power + 1 : Nat)⟩
      | none => interval.coarsest tie power

/-- The shortest decimal that reads back as `significand * 2 ^ exponent`. -/
def shortest (tie : Tie) (significand : Nat) (exponent : Int) : Decimal :=
  if significand = 0 then ⟨0, 0⟩
  else
    let interval := Interval.around significand exponent
    interval.coarsest tie (toString interval.middle).length

end Decimal

end ObjectQuery
