import Sortie.Number.Binary

namespace Sortie.Number

/-- The number `digits * 10 ^ exponent`. -/
structure Decimal where
  digits : Nat
  exponent : Int
  deriving DecidableEq, Repr

/-- Which of two equally near decimals is chosen. -/
inductive Tie where
  | away
  | even
  deriving DecidableEq, Repr

/-- A fraction and the bounds of the interval of reals that round to it, over one denominator. -/
structure Interval where
  low : Nat
  value : Nat
  high : Nat
  denominator : Nat
  closed : Bool

namespace Interval

/-- The reals that round to `significand * 2 ^ power`. Below a power of two the gap is half as
wide, except at the bottom of the format. The ends belong to it iff the significand is even. -/
def around (format : Format) (significand : Nat) (power : Int) : Interval :=
  let narrow := significand = 1 <<< format.fractionBits ∧ format.lowestPower < power
  let low := 4 * significand - (if narrow then 1 else 2)
  let value := 4 * significand
  let high := 4 * significand + 2
  let closed := significand % 2 = 0
  if 2 ≤ power then
    let shift := (power - 2).toNat
    ⟨low <<< shift, value <<< shift, high <<< shift, 1, closed⟩
  else ⟨low, value, high, 1 <<< (2 - power).toNat, closed⟩

/-- The same interval in units of `10 ^ exponent`. -/
def scale (interval : Interval) (exponent : Int) : Interval :=
  if 0 ≤ exponent then
    { interval with denominator := interval.denominator * Nat.pow 10 exponent.toNat }
  else
    let factor := Nat.pow 10 (-exponent).toNat
    { interval with
      low := interval.low * factor
      value := interval.value * factor
      high := interval.high * factor }

def contains (interval : Interval) (point : Nat) : Bool :=
  let scaled := point * interval.denominator
  if interval.closed then interval.low ≤ scaled ∧ scaled ≤ interval.high
  else interval.low < scaled ∧ scaled < interval.high

/-- The whole number in the interval that is nearest to its value, if it holds one of the value's
two neighbours. -/
def nearestWhole? (interval : Interval) (tie : Tie) : Option Nat :=
  let below := interval.value / interval.denominator
  let above := below + 1
  match interval.contains below, interval.contains above with
  | false, false => none
  | true, false => some below
  | false, true => some above
  | true, true =>
    let down := interval.value - below * interval.denominator
    let up := above * interval.denominator - interval.value
    if down < up then some below
    else if up < down then some above
    else match tie with
      | .away => some above
      | .even => some (if below % 2 = 0 then below else above)

/-- The exponent of the leading decimal digit of the value, which is positive. -/
def leadingExponent (interval : Interval) (guess : Int) : Int :=
  let atLeast (exponent : Int) : Bool :=
    let scaled := interval.scale exponent
    scaled.denominator ≤ scaled.value
  if ¬ atLeast guess then guess - 1
  else if atLeast (guess + 1) then guess + 1
  else guess

end Interval

/-- Drops the zeros at the end of the digits. -/
def Decimal.strip (decimal : Decimal) : Nat → Decimal
  | 0 => decimal
  | fuel + 1 =>
    if decimal.digits % 10 = 0 ∧ decimal.digits ≠ 0 then
      Decimal.strip ⟨decimal.digits / 10, decimal.exponent + 1⟩ fuel
    else decimal

/-- No binary value of the formats here needs more decimal digits. -/
def digitLimit : Nat := 17

/-- The shortest decimal for `significand * 2 ^ power` among those that read back as it. Decimal
grids are tried from the coarsest on; on each, only the two neighbours of the exact value can lie
among the reals that round to it. The first grid with a hit fixes the number of digits, the nearer
neighbour the digits. -/
def shortest (format : Format) (tie : Tie) (significand : Nat) (power : Int) : Decimal :=
  if significand = 0 then ⟨0, 0⟩
  else
    let interval := Interval.around format significand power
    let guess := (power + (significand.log2 : Int)) * 1233 / 4096
    let leading := interval.leadingExponent guess
    let onGrid (count : Nat) : Option Decimal :=
      let exponent := leading - (count : Int)
      ((interval.scale exponent).nearestWhole? tie).map (Decimal.mk · exponent)
    let found := (List.range digitLimit).findSome? onGrid
    (found.getD ⟨0, 0⟩).strip 1

end Sortie.Number
