/-
# Pages

A page of a result is named by its number, counted from one, and its size.  The
total number of rows is known only after a count query has run.

Numbers are 64-bit words.  The offset of a page is `(pageNo - 1) · pageSize`, or
the largest word when the product does not fit.
-/

import PagedQuery.Failure
import PagedQuery.Decimal.Digits

namespace PagedQuery

/-- A page of a result, and the total number of rows once it is known. -/
structure PageInfo where
  pageNo : UInt64
  pageSize : UInt64
  /-- Whether the total is wanted. -/
  countTotal : Bool
  total : Option UInt64
deriving DecidableEq

namespace PageInfo

/-- The first page of a hundred rows, without a total. -/
def first : PageInfo :=
  ⟨1, 100, false, none⟩

/-- A page whose total is not known yet. -/
def request (pageNo pageSize : UInt64) (countTotal : Bool) : PageInfo :=
  ⟨pageNo, pageSize, countTotal, none⟩

/-- The number of rows before a page. -/
def offset (p : PageInfo) : Nat :=
  min ((p.pageNo.toNat - 1) * p.pageSize.toNat) (UInt64.size - 1)

/-- Whether a page exists: its number and its size are not zero. -/
def IsValid (p : PageInfo) : Prop :=
  p.pageNo ≠ 0 ∧ p.pageSize ≠ 0

/-- A page can be looked at and told to exist or not. -/
instance (p : PageInfo) : Decidable p.IsValid :=
  inferInstanceAs (Decidable (_ ∧ _))

/-- Refuses a page that does not exist; its number is looked at first. -/
def validate (p : PageInfo) : Except Failure Unit :=
  if p.pageNo = 0 then .error (.invalidParameter "page number must be >= 1, got 0")
  else if p.pageSize = 0 then .error (.invalidParameter "page size must be > 0")
  else .ok ()

/-- The check lets exactly the pages pass that exist. -/
theorem validate_eq_ok_iff (p : PageInfo) : p.validate = .ok () ↔ p.IsValid := by
  unfold validate IsValid
  split
  · simp_all
  · split <;> simp_all

/-- A page that does not exist is refused as a parameter. -/
theorem validate_of_not_isValid {p : PageInfo} (invalid : ¬ p.IsValid) :
    ∃ m, p.validate = .error (.invalidParameter m) := by
  unfold validate
  split
  · exact ⟨_, rfl⟩
  split
  · exact ⟨_, rfl⟩
  · next number size => exact absurd ⟨number, size⟩ invalid

end PageInfo

end PagedQuery
