/-
# Resolutions that are shared

Resolutions are kept and handed out again, so callers that describe their driver alike share one
object.  Several callers may be at work at once, and what they can observe depends on where one
may be interrupted.  So the work of a caller is cut into the two steps between which others may go
through theirs: `lookup` hands out the kept object, or else makes a new one that is not kept yet;
`keep` then keeps it, unless one was kept meanwhile, which is handed out instead.  `clear` forgets
all that is kept.

Objects are told apart by a number, so that one object handed out twice differs from two equal
ones.
-/

import PagedQuery.Dialect.Registry

namespace PagedQuery

/-- A resolution as an object with an identity. -/
structure SharedResolution where
  identity : Nat
  resolution : Resolution
deriving DecidableEq

/-- What a look-up ends with. -/
inductive LookupResult
  /-- The object kept for the driver. -/
  | found (object : SharedResolution)
  /-- A new object for the driver, not kept yet. -/
  | computed (object : SharedResolution)

/-- The objects kept, by driver, and the number of the next new one. -/
structure Resolver where
  kept : List (DriverInfo × SharedResolution)
  nextIdentity : Nat

namespace Resolver

/-- A resolver that keeps nothing. -/
def empty : Resolver :=
  ⟨[], 0⟩

/-- The object kept for a driver. -/
def find? (r : Resolver) (driver : DriverInfo) : Option SharedResolution :=
  r.kept.lookup driver

/-- The first step of a caller. -/
def lookup (r : Resolver) (driver : DriverInfo) : LookupResult × Resolver :=
  match r.find? driver with
  | some object => (.found object, r)
  | none =>
    (.computed ⟨r.nextIdentity, driver.resolve⟩, { r with nextIdentity := r.nextIdentity + 1 })

/-- The second step of a caller whose look-up made a new object. -/
def keep (r : Resolver) (driver : DriverInfo) (object : SharedResolution) :
    SharedResolution × Resolver :=
  match r.find? driver with
  | some other => (other, r)
  | none => (object, { r with kept := (driver, object) :: r.kept })

/-- Both steps of a caller, with no other caller in between. -/
def resolve (r : Resolver) (driver : DriverInfo) : SharedResolution × Resolver :=
  match r.lookup driver with
  | (.found object, r) => (object, r)
  | (.computed object, r) => r.keep driver object

/-- The number of objects kept. -/
def count (r : Resolver) : Nat :=
  r.kept.length

/-- Keeps nothing any more.  Numbers are not used again. -/
def clear (r : Resolver) : Resolver :=
  { r with kept := [] }

end Resolver

end PagedQuery
