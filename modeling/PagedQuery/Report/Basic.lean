/-
# Reports

A table, or the columns of a catalog table, as text for a reader or a program.

For a reader a table is a grid with the types of its columns in the heading and the number of its
rows below.  For a program it is JSON, one object with an object for each row and all members
sorted by name, or CSV, a heading record and one record for each row, where null is an empty
field.  Columns are a grid, an array or a CSV text with three fields for each column: its name,
its type and what it refers to.

The object of a row has one member for each name, so columns of one name do not all get into it;
grid and CSV go by position and keep every cell.
-/

import PagedQuery.Codec.Table
import PagedQuery.Report.Csv
import PagedQuery.Report.Grid

namespace PagedQuery

/-- The form of a report. -/
inductive ReportFormat
  /-- A grid for a reader. -/
  | table
  | json
  | csv
deriving DecidableEq

namespace ReportFormat

/-- All forms. -/
def all : List ReportFormat :=
  [table, json, csv]

/-- The word for a form. -/
def word : ReportFormat → String
  | table => "table"
  | json => "json"
  | csv => "csv"

/-- The form a user names, in any letter case. -/
def ofWord? (cs : List Char) : Option ReportFormat :=
  all.find? fun f => f.word.toList == Text.lower cs

/-- What a user is told about a word that names no form. -/
def unknownMessage (word : String) : String :=
  "Unknown output format: " ++ word

end ReportFormat

namespace Report

/-- The grid of a table. -/
def tableGrid (t : Table) : Grid where
  header := t.columns.map fun c => c.name ++ "\n" ++ c.valueType.name
  rows := t.rows.map fun row => row.map Cell.display

/-- A table as a grid with the number of its rows. -/
def tableText (t : Table) : String :=
  if t.columns.isEmpty then "(no columns)"
  else String.ofList (tableGrid t).text ++ "\n" ++ Decimal.numeral t.rows.length ++ " row(s)"

/-- A row as an object; of columns with one name the last stays. -/
def rowObject (columns : List Column) (row : Row) : Json :=
  .object ((columns.zip row).map fun (column, cell) => (column.name, cell.json))

/-- A table as an object. -/
def tableObject (t : Table) : Json :=
  .object
    [("columns", .array (t.columns.map Column.json)),
     ("rows", .array (t.rows.map (rowObject t.columns))),
     ("pageInfo", Json.nullable PageInfo.json t.pageInfo),
     ("script", Json.nullable Json.text t.script)]

/-- The field of a cell. -/
def csvField (cell : Cell) : String :=
  if cell.isNull then "" else cell.display

/-- The records of a table. -/
def tableRecords (t : Table) : List (List String) :=
  t.columns.map Column.name :: t.rows.map fun row => row.map csvField

/-- A table in a form. -/
def ofTable (t : Table) : ReportFormat → String
  | .table => tableText t
  | .json => (tableObject t).sorted.printPretty
  | .csv => String.ofList (Csv.text (tableRecords t))

/-- The name, the type and the reference of a column. -/
def columnFields (c : Column) : List String :=
  [c.name, c.valueType.name, c.reference]

/-- Columns in a form. -/
def ofColumns (columns : List Column) : ReportFormat → String
  | .table =>
    String.ofList (Grid.text ⟨["Column", "Type", "References"], columns.map columnFields⟩)
  | .json => (Json.array (columns.map Column.json)).printPretty
  | .csv =>
    String.ofList (Csv.text (["name", "type", "references"] :: columns.map columnFields))

end Report

end PagedQuery
