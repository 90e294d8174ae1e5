/-
# Binary floating point of 64 bits

A finite number is a sign and a magnitude `significand · 2 ^ (exponent - 1074)`.  Magnitudes are
canonical, so equal numbers have equal parts: a significand below `2 ^ 53` with exponent 0, which
gives zero, the subnormal numbers and the lowest normal ones, or a significand of exactly 53 bits
with an exponent from 1 to 2045.

All arithmetic is exact on natural numbers and rounded once, to the nearest magnitude, a half to
the even significand.  So a product or a quotient is a fraction of natural numbers first
(`nearest?`), and nothing in between is ever a rounded number.
-/

import PagedQuery.Decimal.Digits

namespace PagedQuery
namespace Decimal

/-- The size of a finite number: `significand · 2 ^ (exponent - 1074)`. -/
structure Magnitude where
  significand : Nat
  exponent : Nat
  canonical : significand < 1 <<< 53 ∧ exponent ≤ 2045 ∧ (exponent = 0 ∨ 1 <<< 52 ≤ significand)
deriving DecidableEq

/-- A binary floating-point number of 64 bits.  All not-a-numbers count as one. -/
inductive Binary64
  | nan
  | infinite (negative : Bool)
  | finite (negative : Bool) (magnitude : Magnitude)
deriving DecidableEq

namespace Magnitude

/-- The magnitude of zero. -/
def zero : Magnitude :=
  ⟨0, 0, by decide⟩

/-- The denominator shared by all magnitudes. -/
def unit : Nat :=
  1 <<< 1074

/-- A magnitude times `unit`, a natural number. -/
def scaled (x : Magnitude) : Nat :=
  x.significand <<< x.exponent

/-- The quotient rounded to a natural number, a half to the even one. -/
def roundHalfEven (num den : Nat) : Nat :=
  let quotient := num / den
  let rest := num % den
  if 2 * rest < den then quotient
  else if den < 2 * rest then quotient + 1
  else quotient + quotient % 2

/-- The magnitude with the given parts, where a significand that was rounded up
to `2 ^ 53` moves to the next exponent; `none` when it is too large. -/
def ofParts? (significand exponent : Nat) : Option Magnitude :=
  if h : significand < 1 <<< 53 ∧ exponent ≤ 2045 ∧ (exponent = 0 ∨ 1 <<< 52 ≤ significand) then
    some ⟨significand, exponent, h⟩
  else if h : significand = 1 <<< 53 ∧ exponent < 2045 then
    some ⟨1 <<< 52, exponent + 1, by omega⟩
  else none

/-- The magnitude nearest to `num / den`; `none` when it is too large. -/
def nearest? (num den : Nat) : Option Magnitude :=
  let scaled := num * unit
  let exponent := (scaled / den).log2 - 52
  ofParts? (roundHalfEven scaled (den <<< exponent)) exponent

/-- The magnitude nearest to a natural number. -/
def ofNat? (n : Nat) : Option Magnitude :=
  nearest? n 1

/-- The product rounded to the nearest magnitude. -/
def mul? (x y : Magnitude) : Option Magnitude :=
  nearest? (x.scaled * y.scaled) (unit * unit)

/-- The quotient by a magnitude other than zero, rounded to the nearest magnitude. -/
def div? (x y : Magnitude) : Option Magnitude :=
  nearest? x.scaled y.scaled

/-- The magnitude nearest to `coefficient · 10 ^ exponent`; `none` when it is too
large.  Numbers of more than 310 places are too large, and those below
`10 ^ -330` are zero, so no larger power is ever computed. -/
def ofDecimal? (coefficient : Nat) (exponent : Int) : Option Magnitude :=
  let places : Int := (digits coefficient).length + exponent
  if coefficient = 0 ∨ places < -330 then some zero
  else if 310 < places then none
  else if 0 ≤ exponent then nearest? (coefficient * Nat.pow 10 exponent.toNat) 1
  else nearest? coefficient (Nat.pow 10 (-exponent).toNat)

/-- Whether a magnitude is a natural number. -/
def isIntegral (x : Magnitude) : Bool :=
  x.scaled % unit = 0

/-- A magnitude without its fraction. -/
def floor (x : Magnitude) : Nat :=
  x.scaled / unit

end Magnitude

namespace Binary64

/-- Positive zero. -/
def zero : Binary64 :=
  .finite false .zero

/-- Whether a number is neither infinite nor a not-a-number. -/
def isFinite : Binary64 → Bool
  | .finite .. => true
  | _ => false

/-- A number with the given sign and the magnitude, infinite when there is none. -/
def ofMagnitude? (negative : Bool) : Option Magnitude → Binary64
  | some x => .finite negative x
  | none => .infinite negative

/-- The number nearest to an integer. -/
def ofInt (i : Int) : Binary64 :=
  ofMagnitude? (decide (i < 0)) (Magnitude.ofNat? i.natAbs)

/-- The natural number a float denotes, if it denotes one.  Negative zero denotes
zero. -/
def toNat? : Binary64 → Option Nat
  | .finite negative x =>
    if (negative && x.significand != 0) || !x.isIntegral then none else some x.floor
  | _ => none

end Binary64

end Decimal
end PagedQuery
