/-
# Ways to write a number

One set of digits is written in different ways by different formats.

| format | positional for | whole numbers | exponent | tie | no number |
| --- | --- | --- | --- | --- | --- |
| `plain` | all exponents | `7` | never | away | `NaN`, `inf` |
| `diagnostic` | `1e-4` to below `1e16` | `7.0` | `9e-5`, `1e16` | away | `NaN`, `inf` |
| `json` | `1e-5` to below `1e16` | `7.0` | `1e-7`, `1e+16` | to even | `null` |
-/

import PagedQuery.Decimal.Shortest

namespace PagedQuery
namespace Decimal

/-- What a format decides about the text of a number. -/
structure Layout where
  /-- Whether a number whose first digit stands at this power of ten is written without an
  exponent. -/
  isPositional : Int → Bool
  /-- What follows a whole number written without an exponent. -/
  wholeEnding : String
  /-- What stands before an exponent that is not negative. -/
  exponentPlus : String
  /-- Which of two shortest decimals that are equally near is written. -/
  tie : Tie
  /-- The text of a not-a-number. -/
  nanText : String
  /-- The text of an infinite number, by its sign. -/
  infinityText : Bool → String

namespace Layout

/-- The way a cell shows a number: never an exponent, whole numbers without a fraction. -/
def plain : Layout where
  isPositional _ := true
  wholeEnding := ""
  exponentPlus := ""
  tie := .away
  nanText := "NaN"
  infinityText negative := if negative then "-inf" else "inf"

/-- The way a message shows a number that was not expected. -/
def diagnostic : Layout where
  isPositional e := decide (-4 ≤ e) && decide (e < 16)
  wholeEnding := ".0"
  exponentPlus := ""
  tie := .away
  nanText := "NaN"
  infinityText negative := if negative then "-inf" else "inf"

/-- The way a JSON text shows a number; it has none for those that are not finite. -/
def json : Layout where
  isPositional e := decide (-5 ≤ e) && decide (e < 16)
  wholeEnding := ".0"
  exponentPlus := "+"
  tie := .toEven
  nanText := "null"
  infinityText _ := "null"

/-- Digits with the decimal point after the first `whole` of them, zeros filled in. -/
def positional (l : Layout) (ds : List Char) (whole : Int) : List Char :=
  if whole ≤ 0 then
    '0' :: '.' :: (List.replicate (-whole).toNat '0' ++ ds)
  else if ds.length ≤ whole.toNat then
    ds ++ List.replicate (whole.toNat - ds.length) '0' ++ l.wholeEnding.toList
  else
    ds.take whole.toNat ++ '.' :: ds.drop whole.toNat

/-- Digits with a point after the first one and an exponent. -/
def exponential (l : Layout) (ds : List Char) (exponent : Int) : List Char :=
  let fraction := if ds.length ≤ 1 then ds else ds.take 1 ++ '.' :: ds.drop 1
  let mark := if exponent < 0 then "-".toList else l.exponentPlus.toList
  fraction ++ 'e' :: (mark ++ digits exponent.natAbs)

/-- A decimal written in a layout. -/
def decimal (l : Layout) (x : Scientific) : List Char :=
  let ds := digits x.coefficient
  let exponent := x.leadingExponent
  if x.coefficient = 0 then '0' :: l.wholeEnding.toList
  else if l.isPositional exponent then l.positional ds (exponent + 1)
  else l.exponential ds exponent

/-- A number written in a layout. -/
def number (l : Layout) : Binary64 → List Char
  | .nan => l.nanText.toList
  | .infinite negative => (l.infinityText negative).toList
  | .finite negative x => (if negative then ['-'] else []) ++ l.decimal (x.shortest l.tie)

end Layout

end Decimal
end PagedQuery
