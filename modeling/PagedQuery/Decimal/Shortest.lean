/-
# The shortest decimal that reads back

Among the decimals that round to a given magnitude, the one with the fewest
digits is written, and of those the nearest.  The reals that round to
`m · 2 ^ q` form an interval: from the midpoint with its lower neighbour to the
midpoint with its upper neighbour, ends included when `m` is even.  For one,
two, … seventeen digits the two points of the decimal grid on either side of the
magnitude are tried; the first grid with a point in the interval gives the
answer.  Where both points are in it and equally near, the format decides between
them.  Everything is exact arithmetic on natural numbers.
-/

import PagedQuery.Decimal.Binary64

namespace PagedQuery
namespace Decimal

/-- The decimal `coefficient · 10 ^ exponent`. -/
structure Scientific where
  coefficient : Nat
  exponent : Int
deriving DecidableEq

/-- Which of two equally near decimals is written. -/
inductive Tie
  /-- The one whose last digit is even. -/
  | toEven
  /-- The one of greater magnitude. -/
  | away
deriving DecidableEq

/-- The coefficient that a tie between `below` and `below + 1` goes to. -/
def Tie.pick (tie : Tie) (below : Nat) : Nat :=
  match tie with
  | toEven => below + below % 2
  | away => below + 1

namespace Scientific

/-- The decimal without trailing zeros, at most `fuel` of them. -/
def stripZeros : (fuel : Nat) → Scientific → Scientific
  | 0, x => x
  | fuel + 1, x =>
    if x.coefficient ≠ 0 ∧ x.coefficient % 10 = 0 then
      stripZeros fuel ⟨x.coefficient / 10, x.exponent + 1⟩
    else x

/-- The power of ten of the first digit. -/
def leadingExponent (x : Scientific) : Int :=
  x.exponent + (digits x.coefficient).length - 1

end Scientific

/-- A power of ten as a quotient of natural numbers. -/
def powerOfTen (exponent : Int) : Nat × Nat :=
  if 0 ≤ exponent then (Nat.pow 10 exponent.toNat, 1) else (1, Nat.pow 10 (-exponent).toNat)

/-- The reals that round to a magnitude, all in units of `2 ^ -1076`. -/
structure RoundingInterval where
  lower : Nat
  middle : Nat
  upper : Nat
  closed : Bool

namespace Magnitude

/-- The interval of reals that round to a magnitude.  Below a power of two the
neighbours are half as far apart. -/
def interval (x : Magnitude) : RoundingInterval :=
  let step := 1 <<< x.exponent
  let below := if x.significand = 1 <<< 52 ∧ 0 < x.exponent then 1 else 2
  { lower := (4 * x.significand - below) * step
    middle := 4 * x.significand * step
    upper := (4 * x.significand + 2) * step
    closed := x.significand % 2 = 0 }

/-- The power of ten of the first digit of a magnitude other than zero. -/
def leadingExponent (x : Magnitude) : Int :=
  if unit ≤ x.scaled then (digits (x.scaled / unit)).length - 1
  else -(digits ((unit - 1) / x.scaled)).length

end Magnitude

/-- Whether `coefficient · 10 ^ exponent` lies in the interval. -/
def RoundingInterval.contains (i : RoundingInterval) (coefficient : Nat) (exponent : Int) : Bool :=
  let (num, den) := powerOfTen exponent
  let point := coefficient * num * (4 * Magnitude.unit)
  if i.closed then decide (i.lower * den ≤ point) && decide (point ≤ i.upper * den)
  else decide (i.lower * den < point) && decide (point < i.upper * den)

/-- The point of the grid of `10 ^ exponent` in the interval that is nearest to its
middle. -/
def RoundingInterval.gridPoint? (i : RoundingInterval) (tie : Tie) (exponent : Int) : Option Nat :=
  let (num, den) := powerOfTen exponent
  let spacing := num * (4 * Magnitude.unit)
  let below := i.middle * den / spacing
  let above := below + 1
  match i.contains below exponent, i.contains above exponent with
  | true, false => some below
  | false, true => some above
  | false, false => none
  | true, true =>
    let twice := 2 * (i.middle * den)
    let midpoint := (2 * below + 1) * spacing
    if twice < midpoint then some below
    else if midpoint < twice then some above
    else some (tie.pick below)

/-- The shortest decimal that rounds to a magnitude. -/
def Magnitude.shortest (x : Magnitude) (tie : Tie) : Scientific :=
  if x.significand = 0 then ⟨0, 0⟩
  else
    let found := (List.range 17).findSome? fun (n : Nat) =>
      let exponent := x.leadingExponent - n
      (x.interval.gridPoint? tie exponent).map fun coefficient => Scientific.mk coefficient exponent
    (found.getD ⟨0, 0⟩).stripZeros 18

end Decimal
end PagedQuery
