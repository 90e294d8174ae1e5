/-
# Columns

A column has a name and a logical type; a column of a catalog table may also
refer to a primary key elsewhere.
-/

import PagedQuery.ValueType

namespace PagedQuery

/-- A column of a result or of a catalog table. -/
structure Column where
  name : String
  valueType : ValueType
  /-- The catalog of the primary key it refers to. -/
  keyCatalog : Option String
  /-- The table of the primary key it refers to. -/
  keyTable : Option String
  /-- The primary-key column it refers to. -/
  keyColumn : Option String
deriving DecidableEq

namespace Column

/-- A column that refers to nothing. -/
def plain (name : String) (valueType : ValueType) : Column :=
  ⟨name, valueType, none, none, none⟩

/-- A column with a reference to a primary key. -/
def withKey (c : Column) (catalog table column : Option String) : Column :=
  { c with keyCatalog := catalog, keyTable := table, keyColumn := column }

/-- Whether a column refers to a primary key. -/
def hasKey (c : Column) : Bool :=
  c.keyTable.isSome

/-- The primary key a column refers to, as a dotted path; empty when there is none. -/
def reference (c : Column) : String :=
  match c.keyTable, c.keyColumn with
  | some table, some key =>
    match c.keyCatalog with
    | some catalog => catalog ++ "." ++ table ++ "." ++ key
    | none => table ++ "." ++ key
  | some table, none => table
  | none, _ => ""

end Column

end PagedQuery
