/-
# Tables

A typed result: columns, and rows whose cells stand in the order of the columns.
`ofRows` is the only way to build a table from loose rows and refuses a row of
another width, so its tables are rectangular (`isRectangular_of_ofRows`).

A table has no identity of its own; one that is kept as a document has
(`TableDocument`).
-/

import PagedQuery.Cell
import PagedQuery.Column
import PagedQuery.PageInfo

namespace PagedQuery

/-- One row of cells. -/
abbrev Row := List Cell

/-- A typed result. -/
structure Table where
  name : Option String
  columns : List Column
  rows : List Row
  /-- The SQL text the table was read with. -/
  script : Option String
  pageInfo : Option PageInfo
deriving DecidableEq

/-- A table under an identity. -/
structure TableDocument where
  id : String
  table : Table
deriving DecidableEq

namespace Table

/-- Whether every row has a cell for every column and no more. -/
def IsRectangular (t : Table) : Prop :=
  ∀ row ∈ t.rows, row.length = t.columns.length

instance (t : Table) : Decidable t.IsRectangular :=
  inferInstanceAs (Decidable (∀ row ∈ t.rows, row.length = t.columns.length))

/-- The position and the width of the first row that has another width, positions
counted from `start`. -/
def firstMisfit? (width : Nat) (start : Nat) : List Row → Option (Nat × Nat)
  | [] => none
  | row :: rows =>
    if row.length = width then firstMisfit? width (start + 1) rows else some (start, row.length)

/-- The failure of a row of another width than the table. -/
def misfit (position found width : Nat) : Failure :=
  .materialization <|
    "row " ++ Decimal.numeral position ++ " has " ++ Decimal.numeral found ++
      " values but the table has " ++ Decimal.numeral width ++ " columns"

/-- A table of the given columns and rows; the first row of another width is
refused. -/
def ofRows (columns : List Column) (rows : List Row) : Except Failure Table :=
  match firstMisfit? columns.length 0 rows with
  | some (position, found) => .error (misfit position found columns.length)
  | none => .ok ⟨none, columns, rows, none, none⟩

/-- The position of the first column with a name. -/
def columnIndex? (t : Table) (name : String) : Option Nat :=
  t.columns.findIdx? fun c => c.name == name

/-- The cell of a row in the first column with a name. -/
def cell? (t : Table) (row : Nat) (column : String) : Option Cell := do
  let index ← t.columnIndex? column
  let cells ← t.rows[row]?
  cells[index]?

/-- The table under a name. -/
def withName (t : Table) (name : String) : Table :=
  { t with name := some name }

/-- The table with the SQL text it was read with. -/
def withScript (t : Table) (script : String) : Table :=
  { t with script := some script }

/-- The table with the page it is. -/
def withPageInfo (t : Table) (page : PageInfo) : Table :=
  { t with pageInfo := some page }

/-- The table with the types that columns of some names are declared to have. -/
def withDeclaredTypes (t : Table) (declared : String → Option ValueType) : Table :=
  { t with columns := t.columns.map fun c =>
      match declared c.name with
      | some valueType => { c with valueType }
      | none => c }

/-- No misfit is found if and only if all rows have the width asked for. -/
theorem firstMisfit?_eq_none_iff (width start : Nat) (rows : List Row) :
    firstMisfit? width start rows = none ↔ ∀ row ∈ rows, row.length = width := by
  induction rows generalizing start with
  | nil => simp [firstMisfit?]
  | cons row rows ih =>
    by_cases h : row.length = width <;> simp [firstMisfit?, h, ih]

/-- A table built from loose rows has these rows and nothing but its columns besides. -/
theorem eq_of_ofRows {columns : List Column} {rows : List Row} {t : Table}
    (h : ofRows columns rows = .ok t) : t = ⟨none, columns, rows, none, none⟩ := by
  unfold ofRows at h
  split at h
  · cases h
  · exact (Except.ok.inj h).symm

/-- Tables built from loose rows are rectangular. -/
theorem isRectangular_of_ofRows {columns : List Column} {rows : List Row} {t : Table}
    (h : ofRows columns rows = .ok t) : t.IsRectangular := by
  unfold ofRows at h
  split at h
  · simp at h
  · next fits =>
    obtain rfl := Except.ok.inj h
    exact (firstMisfit?_eq_none_iff ..).1 fits

end Table

end PagedQuery
