/-
# Reading numbers

There are two readers of numbers from text.  `readNat?` accepts ASCII digits with nothing before
them but a plus sign, up to a bound.  `Binary64.read?` accepts a sign or nothing and then either a
decimal with an optional exponent or one of the words `inf`, `infinity` and `nan` in any letter
case, and rounds once, to the nearest number.

The first refuses what is too large, the second never does: a decimal beyond the largest number is
infinite.
-/

import PagedQuery.Decimal.Binary64

namespace PagedQuery
namespace Decimal

/-- The digits a text starts with, and what follows them. -/
def spanDigits (cs : List Char) : List Char × List Char :=
  (cs.takeWhile Char.isDigit, cs.dropWhile Char.isDigit)

/-- The natural number below `bound` a text denotes. -/
def readNat? (bound : Nat) (cs : List Char) : Option Nat :=
  let ds := match cs with
    | '+' :: rest => rest
    | rest => rest
  if ds.isEmpty || !ds.all Char.isDigit then none
  else if ofDigits ds < bound then some (ofDigits ds)
  else none

/-- The sign a text starts with, true for a minus, and what follows it. -/
def spanSign : List Char → Bool × List Char
  | '-' :: cs => (true, cs)
  | '+' :: cs => (false, cs)
  | cs => (false, cs)

/-- A fraction: the digits after a point, if there is a point, and what follows. -/
def spanFraction : List Char → List Char × List Char
  | '.' :: cs => spanDigits cs
  | cs => ([], cs)

/-- An exponent that fills a text, zero for an empty one. -/
def exponent? : List Char → Option Int
  | [] => some 0
  | c :: cs =>
    if c = 'e' ∨ c = 'E' then
      let (negative, ds) := spanSign cs
      if ds.isEmpty || !ds.all Char.isDigit then none
      else some (if negative then -(ofDigits ds : Int) else ofDigits ds)
    else none

/-- The decimal an unsigned text denotes, as a coefficient and a power of ten. -/
def decimal? (cs : List Char) : Option (Nat × Int) :=
  let (whole, rest) := spanDigits cs
  let (fraction, rest) := spanFraction rest
  if whole.isEmpty && fraction.isEmpty then none
  else (exponent? rest).map fun e => (ofDigits (whole ++ fraction), e - fraction.length)

/-- The number a text denotes. -/
def Binary64.read? (cs : List Char) : Option Binary64 :=
  let (negative, body) := spanSign cs
  let word := String.ofList (body.map Char.toLower)
  if word = "inf" ∨ word = "infinity" then some (.infinite negative)
  else if word = "nan" then some .nan
  else (decimal? body).map fun (coefficient, exponent) =>
    .ofMagnitude? negative (Magnitude.ofDecimal? coefficient exponent)

end Decimal
end PagedQuery
