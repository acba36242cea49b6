import CaseLabel.Decimal.Binary

/-!
# The shortest decimal that reads back as a binary value

The reals that round to a binary value form an interval around it. Among the decimals in that
interval `shortest` takes one with the fewest digits and, of two such neighbours, the nearer one;
`Tie` says what happens when both are equally near. All arithmetic is exact.
-/

namespace CaseLabel

/-- The choice between two equally near decimals. -/
inductive Tie where
  | larger | even
  deriving DecidableEq, Repr

/-- The number `digits · 10 ^ exponent`. -/
structure Decimal where
  digits : Nat
  exponent : Int
  deriving DecidableEq, Repr

/-- The reals from `low / scale` to `high / scale` that round to `value / scale`. -/
structure Interval where
  low : Nat
  value : Nat
  high : Nat
  scale : Nat
  /-- Whether the ends round to the value too. -/
  closed : Bool
  deriving DecidableEq, Repr

/-- The ends lie halfway to the neighbours. They belong to the interval of an even significand. -/
def Dyadic.interval (x : Dyadic) : Interval :=
  let raise := (x.exponent - 2).toNat
  { low := (4 * x.significand - if x.narrow then 1 else 2) <<< raise
    value := (4 * x.significand) <<< raise
    high := (4 * x.significand + 2) <<< raise
    scale := 1 <<< (2 - x.exponent).toNat
    closed := x.significand % 2 = 0 }

namespace Interval

/-- The factor that makes a multiple of `10 ^ exponent` whole. -/
def denominator (exponent : Int) : Nat := Nat.pow 10 (-exponent).toNat

/-- A decimal on the scale of the interval, multiplied by the denominator of its exponent. -/
def scaled (interval : Interval) (x : Decimal) : Nat :=
  x.digits * Nat.pow 10 x.exponent.toNat * interval.scale

def contains (interval : Interval) (x : Decimal) : Bool :=
  let point := interval.scaled x
  let low := interval.low * denominator x.exponent
  let high := interval.high * denominator x.exponent
  if interval.closed then low ≤ point && point ≤ high else low < point && point < high

/-- The greatest multiple of `10 ^ exponent` that does not exceed the value. -/
def below (interval : Interval) (exponent : Int) : Decimal :=
  ⟨interval.value * denominator exponent / (Nat.pow 10 exponent.toNat * interval.scale), exponent⟩

/-- The exponent of the first digit of the value, which is not zero. -/
def leading (interval : Interval) : Int :=
  if interval.scale ≤ interval.value then
    ((Nat.toDigits 10 (interval.value / interval.scale)).length : Int) - 1
  else -((Nat.toDigits 10 ((interval.scale - 1) / interval.value)).length : Int)

/-- The nearer of a decimal below the value and its upper neighbour on the same grid. -/
def nearer (tie : Tie) (interval : Interval) (x : Decimal) : Decimal :=
  let upper : Decimal := ⟨x.digits + 1, x.exponent⟩
  let twice := 2 * interval.value * denominator x.exponent
  let middle := interval.scaled x + interval.scaled upper
  if twice < middle then x
  else if middle < twice then upper
  else match tie with
    | .larger => upper
    | .even => if x.digits % 2 = 0 then x else upper

/-- The multiple of `10 ^ exponent` to take, if one of the two around the value is inside. -/
def onGrid? (tie : Tie) (interval : Interval) (exponent : Int) : Option Decimal :=
  let lower := interval.below exponent
  let upper : Decimal := ⟨lower.digits + 1, exponent⟩
  match interval.contains lower, interval.contains upper with
  | true, true => some (interval.nearer tie lower)
  | true, false => some lower
  | false, true => some upper
  | false, false => none

/-- Seventeen digits tell all values of both formats apart, so one of the grids has a hit. -/
def shortest (tie : Tie) (interval : Interval) : Decimal :=
  let leading := interval.leading
  ((List.range 17).findSome? fun n : Nat => interval.onGrid? tie (leading - n)).getD
    (interval.below (leading - 16))

end Interval

end CaseLabel
