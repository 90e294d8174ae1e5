/-
# Catalogs, tables and columns

Metadata is read from a source through a connection of its own per question.
Names come back sorted by code point and without repetitions; columns come back
in the driver's order, each with the key it refers to.  Where several imported
keys are about one column, the last of them counts.
-/

import PagedQuery.Materialize

namespace PagedQuery

/-- A name put into its place among sorted names, unless it is there already. -/
def insertName (name : String) : List String → List String
  | [] => [name]
  | other :: names =>
    if name = other then other :: names
    else if name < other then name :: other :: names
    else other :: insertName name names

/-- Names sorted by code point, each once. -/
def sortNames (names : List String) : List String :=
  names.foldl (fun sorted name => insertName name sorted) []

/-- The last imported key about a column. -/
def keyOf? (keys : List ImportedKey) (column : String) : Option ImportedKey :=
  keys.reverse.find? fun k => k.column == column

/-- A driver's column with the key it refers to. -/
def ColumnMeta.columnWithKey (keys : List ImportedKey) (m : ColumnMeta) : Column :=
  match keyOf? keys m.name with
  | some key => m.column.withKey key.keyCatalog key.keyTable key.keyColumn
  | none => m.column

namespace Source

variable {σ : Type}

/-- The catalog a connection is bound to, or all catalogs if it is bound to none. -/
def listCatalogs (source : Source σ) : Action σ (List String) :=
  source.withConnection fun c => do
    match (← c.currentCatalog).filter fun name => !Text.isAllBlank name.toList with
    | some current => return [current]
    | none => return sortNames (← c.catalogs)

/-- The tables and views of a catalog. -/
def listTables (source : Source σ) (catalog : String) : Action σ (List String) :=
  source.withConnection fun c => do
    return sortNames (← c.tables catalog)

/-- The columns of a table.  The keys are read before the columns. -/
def listColumns (source : Source σ) (catalog table : String) : Action σ (List Column) :=
  source.withConnection fun c => do
    let keys ← c.importedKeys catalog table
    let columns ← c.columns catalog table
    return columns.map (ColumnMeta.columnWithKey keys)

end Source

end PagedQuery
