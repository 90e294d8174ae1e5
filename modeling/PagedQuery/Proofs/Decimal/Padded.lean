/-
# Numerals with leading zeros

`padded width n` is the numeral of `n` with as many zeros in front as make `width` digits.  It
denotes `n` (`ofDigits_padded`), and every run of digits is the padded numeral of the number
it denotes (`padded_ofDigits`).  So a number is read from its numerals, behind a plus or
nothing, and from nothing else (`readNat?_eq_some_iff`).
-/

import Mathlib.Data.List.Induction
import PagedQuery.Timestamp

namespace PagedQuery
namespace Decimal

open Timestamp (padded)

/-- A digit is the character of its value. -/
theorem digitChar_digitValue {c : Char} (digit : c.isDigit = true) :
    digitChar (digitValue c) = c := by
  obtain ⟨low, -⟩ : 48 ≤ c.toNat ∧ c.toNat ≤ 57 := by
    simpa [Char.isDigit, UInt32.le_iff_toNat_le] using digit
  rw [digitChar, digitValue, Nat.add_sub_of_le low, Char.ofNat_toNat]

/-- The value of a digit is below ten. -/
theorem digitValue_lt {c : Char} (digit : c.isDigit = true) : digitValue c < 10 := by
  obtain ⟨-, high⟩ : 48 ≤ c.toNat ∧ c.toNat ≤ 57 := by
    simpa [Char.isDigit, UInt32.le_iff_toNat_le] using digit
  rw [digitValue]
  omega

/-- A wider numeral ends with the last digit and has the other ones in front of it. -/
theorem padded_succ_succ (width n : Nat) :
    padded (width + 2) n = padded (width + 1) (n / 10) ++ [digitChar (n % 10)] := by
  rcases Nat.lt_or_ge n 10 with small | large
  · have last : digits n = [digitChar n] := by rw [digits, if_pos small]
    have zero : digits (n / 10) = ['0'] := by
      rw [Nat.div_eq_of_lt small, digits]
      rfl
    rw [padded, padded, last, zero, Nat.mod_eq_of_lt small]
    simp [List.replicate_succ']
  · have last : digits n = digits (n / 10) ++ [digitChar (n % 10)] := by
      rw [digits, if_neg (Nat.not_lt.2 large)]
    rw [padded, padded, last]
    simp

/-- A padded numeral holds nothing but digits. -/
theorem isDigit_of_mem_padded {width n : Nat} : ∀ c ∈ padded width n, c.isDigit = true := by
  intro c inside
  rcases List.mem_append.1 inside with zero | inside
  · rw [List.eq_of_mem_replicate zero]
    rfl
  · exact isDigit_of_mem_digits n c inside

/-- A padded numeral is never empty, not even at the width zero: zero has a digit. -/
theorem padded_ne_nil (width n : Nat) : padded width n ≠ [] :=
  List.append_ne_nil_of_right_ne_nil _ (digits_ne_nil n)

/-- A padded numeral denotes the number it was written for. -/
theorem ofDigits_padded (width n : Nat) : ofDigits (padded width n) = n := by
  have zeros (k : Nat) : ofDigits (List.replicate k '0' ++ digits n) = n := by
    induction k with
    | zero => exact ofDigits_digits n
    | succ k ih => exact ih
  exact zeros _

/-- A number that fits has exactly the digits that are asked for. -/
theorem length_padded {width n : Nat} (fits : n < Nat.pow 10 (width + 1)) :
    (padded (width + 1) n).length = width + 1 := by
  induction width generalizing n with
  | zero =>
    have small : n < 10 := fits
    have last : digits n = [digitChar n] := by rw [digits, if_pos small]
    rw [padded, last]
    rfl
  | succ width ih =>
    have fits' : n / 10 < Nat.pow 10 (width + 1) :=
      Nat.div_lt_of_lt_mul (by rwa [Nat.mul_comm])
    rw [padded_succ_succ, List.length_append, ih fits', List.length_singleton]

/-- Every run of digits is the padded numeral of the number it denotes. -/
theorem padded_ofDigits {ds : List Char} (nonempty : ds ≠ [])
    (all : ∀ c ∈ ds, c.isDigit = true) : padded ds.length (ofDigits ds) = ds := by
  -- From the end, as the numeral of a number is made: its last digit and the numeral of the
  -- quotient.
  induction ds using List.reverseRecOn with
  -- A single digit needs no padding, not even zero.
  | nil => exact absurd rfl nonempty
  | append_singleton ds c ih =>
    have digit : c.isDigit = true := all c (by simp)
    have last := digitValue_lt digit
    rw [ofDigits_append_singleton]
    cases ds with
    | nil =>
      have alone : 10 * ofDigits [] + digitValue c = digitValue c := by simp [ofDigits]
      rw [alone, padded, digits, if_pos last, digitChar_digitValue digit]
      rfl
    | cons d ds =>
      have others := ih (List.cons_ne_nil d ds) fun e inside =>
        all e (List.mem_append_left _ inside)
      rw [List.length_cons] at others
      generalize ofDigits (d :: ds) = n at others ⊢
      have quotient : (10 * n + digitValue c) / 10 = n := by omega
      have remainder : (10 * n + digitValue c) % 10 = digitValue c := by omega
      rw [List.length_append, List.length_cons, List.length_singleton, padded_succ_succ, quotient,
        remainder, others, digitChar_digitValue digit]

/-- What starts with a numeral starts with a digit. -/
theorem isDigit_of_padded_append_eq_cons {width n : Nat} {rest cs : List Char} {c : Char}
    (start : padded width n ++ rest = c :: cs) : c.isDigit = true := by
  obtain ⟨d, ds, numeral⟩ := List.exists_cons_of_ne_nil (padded_ne_nil width n)
  rw [numeral, List.cons_append, List.cons_eq_cons] at start
  obtain ⟨rfl, -⟩ := start
  exact isDigit_of_mem_padded d (by rw [numeral]; exact List.mem_cons_self ..)

/-- A text without the plus it may start with. -/
def dropPlus : List Char → List Char
  | '+' :: cs => cs
  | cs => cs

/-- A number is read from what is left behind a plus, if that is a digit or more and the number is
not too large. -/
theorem readNat?_eq (bound : Nat) (cs : List Char) :
    readNat? bound cs =
      if (dropPlus cs).isEmpty || !(dropPlus cs).all Char.isDigit then none
      else if ofDigits (dropPlus cs) < bound then some (ofDigits (dropPlus cs))
      else none :=
  rfl

/-- What stands before that is a plus or nothing. -/
theorem exists_append_dropPlus (cs : List Char) :
    ∃ sign, (sign = [] ∨ sign = ['+']) ∧ cs = sign ++ dropPlus cs := by
  unfold dropPlus
  split
  · exact ⟨['+'], .inr rfl, rfl⟩
  · exact ⟨[], .inl rfl, rfl⟩

/-- A numeral starts with no plus of its own, so only the one in front of it is taken off. -/
theorem dropPlus_append_padded {sign : List Char} (signed : sign = [] ∨ sign = ['+'])
    (width n : Nat) : dropPlus (sign ++ padded width n) = padded width n := by
  rcases signed with rfl | rfl
  · rw [List.nil_append, dropPlus.eq_def]
    split
    · next plus => cases isDigit_of_padded_append_eq_cons ((List.append_nil _).trans plus)
    · rfl
  · rfl

/-- **A number is read exactly from its numerals,** with or without a plus in front.  Zeros in front
do not count, so every number below the bound has one numeral of each width that is not too small
for it. -/
theorem readNat?_eq_some_iff {bound n : Nat} {cs : List Char} :
    readNat? bound cs = some n ↔
      n < bound ∧ ∃ sign width, (sign = [] ∨ sign = ['+']) ∧ cs = sign ++ padded width n := by
  rw [readNat?_eq]
  constructor
  · intro read
    -- What is read behind the sign is a run of digits, and that is a padded numeral of its own
    -- width.
    obtain ⟨sign, signed, whole⟩ := exists_append_dropPlus cs
    split at read
    · cases read
    next digits =>
    obtain ⟨nonempty, digits⟩ : dropPlus cs ≠ [] ∧ ∀ c ∈ dropPlus cs, c.isDigit = true := by
      simpa [List.isEmpty_iff] using digits
    split at read
    · next small =>
      obtain rfl := Option.some.inj read
      refine ⟨small, sign, (dropPlus cs).length, signed, ?_⟩
      rw [padded_ofDigits nonempty digits]
      exact whole
    · cases read
  · rintro ⟨small, sign, width, signed, rfl⟩
    have nonempty : (padded width n).isEmpty = false :=
      List.isEmpty_eq_false_iff.2 (padded_ne_nil width n)
    have digits : (padded width n).all Char.isDigit = true :=
      List.all_eq_true.2 isDigit_of_mem_padded
    rw [dropPlus_append_padded signed, nonempty, digits, ofDigits_padded, if_pos small]
    rfl

end Decimal
end PagedQuery
