/-
# The exact value of a float

A finite float is the rational number `± significand · 2 ^ (exponent - 1074)`; the others have no
value.  Its count is that number where it is a natural number (`toNat?_eq_some_iff`), which is
found out without rationals, on the magnitude times its unit.
-/

import Mathlib.Algebra.Order.Field.Rat
import Mathlib.Data.Nat.Cast.Order.Ring
import Mathlib.Tactic.NormNum.Basic
import Mathlib.Tactic.Positivity
import PagedQuery.Decimal.Binary64

namespace PagedQuery
namespace Decimal

namespace Magnitude

variable {x : Magnitude} {n : Nat}

/-- The number that a magnitude is, as a fraction: the exponent may be far below zero. -/
def value (x : Magnitude) : ℚ :=
  x.significand * 2 ^ ((x.exponent : ℤ) - 1074)

/-- The unit of the magnitudes is positive. -/
theorem unit_pos : 0 < unit := by
  rw [unit, Nat.shiftLeft_eq]
  positivity

/-- A shift to the left is a product with a power of two; what is shifted in natural numbers is
brought to the rationals by this. -/
theorem natCast_shiftLeft (m k : Nat) : ((m <<< k : Nat) : ℚ) = m * 2 ^ k := by
  rw [Nat.shiftLeft_eq]
  push_cast
  rfl

/-- Magnitudes are multiples of one over their unit. -/
theorem value_eq (x : Magnitude) : x.value = x.scaled / unit := by
  rw [scaled, unit, natCast_shiftLeft, natCast_shiftLeft, Nat.cast_one, one_mul, value,
    zpow_sub₀ two_ne_zero, zpow_natCast, zpow_ofNat, mul_div_assoc]

/-- A magnitude is a natural number if its unit divides what it is a multiple of. -/
theorem value_eq_natCast_iff : x.value = n ↔ x.isIntegral = true ∧ x.floor = n := by
  have whole : x.value = n ↔ x.scaled = n * unit := by
    rw [value_eq, div_eq_iff (Nat.cast_ne_zero.2 unit_pos.ne'), ← Nat.cast_mul, Nat.cast_inj]
  rw [whole, isIntegral, decide_eq_true_iff, floor]
  constructor
  · intro same
    rw [same]
    exact ⟨Nat.mul_mod_left n unit, Nat.mul_div_cancel n unit_pos⟩
  · rintro ⟨divides, rfl⟩
    exact (Nat.div_mul_cancel (Nat.dvd_of_mod_eq_zero divides)).symm

/-- A magnitude has no sign. -/
theorem value_nonneg (x : Magnitude) : 0 ≤ x.value := by
  rw [value_eq]
  exact div_nonneg (Nat.cast_nonneg _) (Nat.cast_nonneg _)

/-- Only the magnitude without a significand is zero, so a negative zero is found by its parts. -/
theorem value_eq_zero_iff : x.value = 0 ↔ x.significand = 0 := by
  rw [value, mul_eq_zero, Nat.cast_eq_zero]
  exact or_iff_left (zpow_ne_zero _ two_ne_zero)

end Magnitude

namespace Binary64

/-- The number that a float is, if it is finite. -/
def value? : Binary64 → Option ℚ
  | finite negative x => some (if negative then -x.value else x.value)
  | _ => none

/-- **A float counts as the natural number that it is.**  It has to be exactly that number: nothing
is rounded, and what is below zero, has a fraction or is not finite does not count. -/
theorem toNat?_eq_some_iff {x : Binary64} {n : Nat} :
    x.toNat? = some n ↔ x.value? = some (n : ℚ) := by
  cases x with
  | nan => simp [toNat?, value?]
  | infinite negative => simp [toNat?, value?]
  -- The number is looked at without its sign first.
  | finite negative x =>
    have natural : (if !x.isIntegral then none else some x.floor) = some n ↔ x.value = n := by
      rw [Magnitude.value_eq_natCast_iff]
      cases x.isIntegral <;> simp
    cases negative with
    | false => simpa [toNat?, value?] using natural
    | true =>
      -- Minus zero is zero and counts.
      by_cases zero : x.significand = 0
      · have value : x.value = 0 := Magnitude.value_eq_zero_iff.2 zero
        rw [value] at natural
        simpa [toNat?, value?, zero, value] using natural
      · -- A number below zero is no natural number.
        have below : -x.value ≠ n := fun same => by
          have positive : 0 < x.value :=
            x.value_nonneg.lt_of_ne' fun value => zero (Magnitude.value_eq_zero_iff.1 value)
          have bound : (0 : ℚ) ≤ n := Nat.cast_nonneg n
          rw [← same] at bound
          exact absurd positive (not_lt.2 (neg_nonneg.1 bound))
        simp [toNat?, value?, zero, below]

end Binary64

end Decimal
end PagedQuery
