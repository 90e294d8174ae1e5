/-
# Decimal numerals

The numeral of a natural number, most significant digit first, and the number a
run of digits denotes.  Reading a numeral gives the number back
(`ofDigits_digits`), so two numbers with one numeral are equal.
-/

namespace PagedQuery
namespace Decimal

/-- The character of a digit below ten. -/
def digitChar (d : Nat) : Char :=
  Char.ofNat (48 + d)

/-- The number a digit character stands for. -/
def digitValue (c : Char) : Nat :=
  c.toNat - 48

/-- The numeral of a number, without leading zeros. -/
def digits (n : Nat) : List Char :=
  if n < 10 then [digitChar n] else digits (n / 10) ++ [digitChar (n % 10)]
termination_by n
decreasing_by omega

/-- The number a run of digits denotes. -/
def ofDigits (ds : List Char) : Nat :=
  ds.foldl (fun n d => 10 * n + digitValue d) 0

/-- The numeral of a number as a string. -/
def numeral (n : Nat) : String :=
  String.ofList (digits n)

/-- The numeral of an integer, with a minus sign when it is negative. -/
def intDigits (i : Int) : List Char :=
  if i < 0 then '-' :: digits i.natAbs else digits i.natAbs

/-- The character of a digit has the value of the digit. -/
theorem digitValue_digitChar {d : Nat} (h : d < 10) : digitValue (digitChar d) = d := by
  have all : ∀ d, d < 10 → digitValue (digitChar d) = d := by decide
  exact all d h

/-- The character of a digit is a digit, for a reader that asks so. -/
theorem isDigit_digitChar {d : Nat} (h : d < 10) : (digitChar d).isDigit = true := by
  have all : ∀ d, d < 10 → (digitChar d).isDigit = true := by decide
  exact all d h

/-- A numeral is never empty; that of zero is one digit. -/
theorem digits_ne_nil (n : Nat) : digits n ≠ [] := by
  rw [digits]; split <;> simp

/-- One more digit at the end, the step of every induction on a numeral. -/
theorem ofDigits_append_singleton (ds : List Char) (c : Char) :
    ofDigits (ds ++ [c]) = 10 * ofDigits ds + digitValue c := by
  simp [ofDigits]

/-- A numeral denotes the number it was written for. -/
theorem ofDigits_digits (n : Nat) : ofDigits (digits n) = n := by
  rw [digits]
  split
  · next h => simp [ofDigits, digitValue_digitChar h]
  · rw [ofDigits_append_singleton, ofDigits_digits (n / 10), digitValue_digitChar (by omega)]
    omega
termination_by n
decreasing_by omega

/-- A numeral holds ASCII digits only. -/
theorem isDigit_of_mem_digits (n : Nat) : ∀ c ∈ digits n, c.isDigit = true := by
  rw [digits]
  split
  · next h => simpa using isDigit_digitChar h
  · intro c hc
    rcases List.mem_append.1 hc with hc | hc
    · exact isDigit_of_mem_digits (n / 10) c hc
    · rw [List.mem_singleton.1 hc]
      exact isDigit_digitChar (by omega)
termination_by n
decreasing_by omega

end Decimal
end PagedQuery
