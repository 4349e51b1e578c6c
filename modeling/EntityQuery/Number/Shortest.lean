import EntityQuery.Number.Double

/-!
# The fewest digits that read back

A finite double is written with the fewest decimal digits from which it can be
read again. The reals that round to a double form an interval, whose ends belong
to it when the significand is even. The decimals with a given last place form a
grid. The first grid, from coarse to fine, with a point in the interval gives the
digits: the point nearest to the double, a rule deciding between two that are
equally near.

## Main definitions

- `Decimal` — a natural number times a power of ten
- `Tie` — which of two equally near decimals is taken
- `Double.shortest` — the nearest of the shortest decimals that read back
-/

namespace EntityQuery

/-- The decimal `coefficient * 10 ^ exponent`. -/
structure Decimal where
  /-- The digits, as a natural number. -/
  coefficient : Nat
  /-- The place of the last digit. -/
  exponent : Int
deriving DecidableEq

/-- Which of two equally near decimals is taken. -/
inductive Tie
  /-- The greater one. -/
  | up
  /-- The one whose last digit is even. -/
  | even
deriving DecidableEq

/-- The exponent of the greatest power of ten that is at most a ratio of two
  positive numbers. -/
def decimalExponent (num den : Nat) : Int :=
  if den ≤ num then ((Nat.toDigits 10 (num / den)).length : Int) - 1
  else -((Nat.toDigits 10 ((den - 1) / num)).length : Int)

namespace Double

/-- The interval of a finite double other than zero, in quarters of the unit of
  its significand. Below a power of two the doubles are twice as dense. -/
structure Interval where
  /-- The lower end. -/
  low : Nat
  /-- The double itself. -/
  value : Nat
  /-- The upper end. -/
  high : Nat
  /-- Do the ends belong to the interval? -/
  closed : Bool
  /-- The exponent of two of the quarter unit. -/
  scale : Int

/-- The reals that round to this double. -/
def interval (x : Double) : Interval :=
  let m := x.significand
  { low := if x.fraction = 0 ∧ 1 < x.exponentField then 4 * m - 1 else 4 * m - 2
    value := 4 * m
    high := 4 * m + 2
    closed := m % 2 == 0
    scale := x.exponent - 2 }

namespace Interval

/-- One unit of the interval, times this number, in units common with the grid
  of a place. -/
def unitWeight (i : Interval) (place : Int) : Nat :=
  Nat.pow 2 i.scale.toNat * Nat.pow 10 (-place).toNat

/-- One step of the grid of a place, in the common units. -/
def stepWeight (i : Interval) (place : Int) : Nat :=
  Nat.pow 2 (-i.scale).toNat * Nat.pow 10 place.toNat

/-- Does the decimal `c * 10 ^ place` lie in the interval? -/
def contains (i : Interval) (c : Nat) (place : Int) : Bool :=
  let unit := i.unitWeight place
  let point := c * i.stepWeight place
  if i.closed then i.low * unit ≤ point && point ≤ i.high * unit
  else i.low * unit < point && point < i.high * unit

/-- The point of the grid of a place that lies in the interval, the nearest one
  to the double if both its neighbours do. -/
def onGrid? (i : Interval) (tie : Tie) (place : Int) : Option Decimal :=
  let step := i.stepWeight place
  let point := i.value * i.unitWeight place
  let c := point / step
  let r := point % step
  match i.contains c place, i.contains (c + 1) place with
  | false, false => none
  | true, false => some ⟨c, place⟩
  | false, true => some ⟨c + 1, place⟩
  | true, true =>
    if 2 * r < step then some ⟨c, place⟩
    else if step < 2 * r then some ⟨c + 1, place⟩
    else match tie with
      | .up => some ⟨c + 1, place⟩
      | .even => some ⟨c + c % 2, place⟩

end Interval

/-- A finite magnitude written out in full. -/
def exactDecimal (x : Double) : Decimal :=
  ⟨x.significand * Nat.pow 2 x.exponent.toNat * Nat.pow 5 (-x.exponent).toNat, min x.exponent 0⟩

/-- The shortest decimal that reads back as the magnitude of a finite double
  other than zero, the nearest of them. Seventeen digits always suffice. -/
def shortest (tie : Tie) (x : Double) : Decimal :=
  let leading := decimalExponent x.numerator x.denominator
  let grids := (List.range 18).map fun (digits : Nat) => leading + 1 - (digits : Int)
  (grids.findSome? fun place => x.interval.onGrid? tie place).getD x.exactDecimal

end Double

end EntityQuery
