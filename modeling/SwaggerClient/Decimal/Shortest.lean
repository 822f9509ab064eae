/-
The shortest decimal that reads back as a given double.

The decimals that round to a double form an interval around it, whose ends belong to it
when the significand is even.  On the grid of numbers with `n` digits only the two
neighbours of the double need a look: if any point of the grid lies in the interval, one of
them does.  The first grid with a hit gives the digits.
-/
import SwaggerClient.Decimal.Double

namespace SwaggerClient.Decimal

/-- A decimal number `digits * 10 ^ exponent`. -/
structure Scaled where
  digits : Nat
  exponent : Int
deriving DecidableEq, Repr

/-- How many decimal digits a natural number has. -/
def digitCount (n : Nat) : Nat := (Nat.toDigits 10 n).length

/-- The exponent `k` with `10 ^ (k - 1) ≤ num / den < 10 ^ k`. -/
def decimalExponent (num den : Nat) : Int :=
  if den ≤ num then digitCount (num / den) else 1 - (digitCount ((den - 1) / num) : Nat)

/-- The reals that round to one double, in units of a quarter of its last place:
from `low` to `high` around `value`, the ends included if `closed`. -/
structure RoundingInterval where
  low : Nat
  value : Nat
  high : Nat
  closed : Bool
  /-- The unit is `unitNum / unitDen`. -/
  unitNum : Nat
  unitDen : Nat

/-- The rounding interval of a finite double that is not zero.  Just above a power of two the
neighbour below is only half as far away. -/
def RoundingInterval.of (x : Double) : RoundingInterval :=
  let m := x.significand
  let q := x.exponent - 2
  let below := if m = Double.exponentUnit ∧ x.exponent ≠ -1074 then 1 else 2
  { low := 4 * m - below
    value := 4 * m
    high := 4 * m + 2
    closed := m % 2 == 0
    unitNum := if q < 0 then 1 else 1 <<< q.toNat
    unitDen := if q < 0 then 1 <<< (-q).toNat else 1 }

/-- The point of the grid `10 ^ exponent` that lies in the interval and nearest to its value,
an exact tie going to the even digit, if the grid has a point there. -/
def nearestOnGrid (r : RoundingInterval) (exponent : Int) : Option Nat :=
  let gridNum := if exponent < 0 then 1 else Nat.pow 10 exponent.toNat
  let gridDen := if exponent < 0 then Nat.pow 10 (-exponent).toNat else 1
  -- both sides of every comparison are brought to the denominator `gridDen * unitDen`
  let onGrid (c : Nat) := c * gridNum * r.unitDen
  let inUnits (u : Nat) := u * r.unitNum * gridDen
  let inside (c : Nat) : Bool :=
    if r.closed then inUnits r.low ≤ onGrid c && onGrid c ≤ inUnits r.high
    else inUnits r.low < onGrid c && onGrid c < inUnits r.high
  let below := inUnits r.value / (gridNum * r.unitDen)
  let above := below + 1
  match inside below, inside above with
  | false, false => none
  | true, false => some below
  | false, true => some above
  | true, true =>
    let down := inUnits r.value - onGrid below
    let up := onGrid above - inUnits r.value
    if down < up then some below
    else if up < down then some above
    else some (if below % 2 = 0 then below else above)

/-- The first hit among the grids with `count` digits, `count + 1` digits and so on.  A hit that
ends in a zero is the power of ten above the whole grid, which one digit less expresses. -/
def firstHit (r : RoundingInterval) (top : Int) (count : Nat) : Nat → Option Scaled
  | 0 => none
  | left + 1 =>
    let exponent := top - count
    match nearestOnGrid r exponent with
    | some digits =>
      some (if digits % 10 = 0 then ⟨digits / 10, exponent + 1⟩ else ⟨digits, exponent⟩)
    | none => firstHit r top (count + 1) left

/-- The shortest decimal that rounds to the absolute value of a finite double.  Seventeen
digits always suffice. -/
def shortest (x : Double) : Scaled :=
  if x.significand = 0 then ⟨0, 0⟩
  else
    let top := decimalExponent x.ratio.1 x.ratio.2
    (firstHit (.of x) top 1 17).getD ⟨0, 0⟩

end SwaggerClient.Decimal
