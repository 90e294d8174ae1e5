/-
# From a cursor to a table

Rows are read in the cursor's order until there are no more or the cap is
reached.  Their cells are not changed; a failure to read discards all rows.  The
cap bounds what is read, so that nothing beyond it has any effect.
-/

import PagedQuery.NativeType
import PagedQuery.Source.Basic
import PagedQuery.Table

namespace PagedQuery

/-- The largest cap, which stands for none. -/
def unboundedRows : Nat :=
  UInt64.size - 1

/-- The column of a table for a column of a driver. -/
def ColumnMeta.column (m : ColumnMeta) : Column :=
  .plain m.name (.ofNative m.typeName)

namespace Cursor

variable {σ : Type}

/-- Reads up to `cap` rows on top of those read before, last row first. -/
def readOnto (c : Cursor σ) : (cap : Nat) → List Row → Action σ (List Row)
  | 0, done => .give done
  | cap + 1, done => do
    match ← c.nextRow.mapFailure .asMaterialization with
    | some row => c.readOnto cap (row :: done)
    | none => .give done

/-- Reads up to `cap` rows. -/
def readRows (c : Cursor σ) (cap : Nat) : Action σ (List Row) := do
  let done ← c.readOnto cap []
  return done.reverse

/-- Reads up to `cap` rows into a table. -/
def materialize (c : Cursor σ) (cap : Nat) : Action σ Table := do
  let rows ← c.readRows cap
  .ofExcept (Table.ofRows (c.columns.map ColumnMeta.column) rows)

/-- Passes over up to `count` rows, ending early where there are no more. -/
def skipRows (c : Cursor σ) : (count : Nat) → Action σ Unit
  | 0 => .give ()
  | count + 1 => do
    if ← c.skipRow then c.skipRows count else .give ()

end Cursor

end PagedQuery
