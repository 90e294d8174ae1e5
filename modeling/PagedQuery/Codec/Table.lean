/-
# Tables as documents

A page is written with all its fields, the total as `null` where it is not known.  A column is
written without the reference it does not have, and a table without the name, script or page it
does not have; identity, columns and rows are always there.

A cell has no type of its own in a document.  An integer that fits 64 signed bits is an integer
cell and any other number a real one; a string is always a text, also where it looks like a
timestamp; an array of bytes is a blob.  So a cell that was written need not come back as the cell
it was.

Reading a table does not look at the widths of its rows.
-/

import PagedQuery.Json.Printer
import PagedQuery.Json.Reader
import PagedQuery.Json.Record
import PagedQuery.Table

namespace PagedQuery

/-- A type as a document. -/
def ValueType.json (t : ValueType) : Json :=
  .text t.name

/-- The type of a document. -/
def ValueType.ofJson? : Json → Option ValueType :=
  Json.named? ValueType.ofName?

namespace Column

/-- A column as a document; references that are missing are left out. -/
def json (c : Column) : Json :=
  .object <|
    [("name", .text c.name), ("type", c.valueType.json)] ++
      Json.optionalMember "fkCatalog" c.keyCatalog ++ Json.optionalMember "fkTable" c.keyTable ++
      Json.optionalMember "fkColumn" c.keyColumn

/-- The column of a document. -/
def ofJson? (j : Json) : Option Column := do
  let slot ← j.slots? ["name", "type", "fkCatalog", "fkTable", "fkColumn"]
  return {
    name := ← (slot "name").required Json.text?
    valueType := ← (slot "type").required ValueType.ofJson?
    keyCatalog := ← (slot "fkCatalog").optional Json.text?
    keyTable := ← (slot "fkTable").optional Json.text?
    keyColumn := ← (slot "fkColumn").optional Json.text? }

end Column

namespace PageInfo

/-- A page as a document. -/
def json (p : PageInfo) : Json :=
  .object
    [("pageNo", .word p.pageNo), ("pageSize", .word p.pageSize),
     ("countTotal", .boolean p.countTotal), ("total", Json.nullable Json.word p.total)]

/-- The page of a document. -/
def ofJson? (j : Json) : Option PageInfo := do
  let slot ← j.slots? ["pageNo", "pageSize", "countTotal", "total"]
  return {
    pageNo := ← (slot "pageNo").required Json.word?
    pageSize := ← (slot "pageSize").required Json.word?
    countTotal := ← (slot "countTotal").required Json.boolean?
    total := ← (slot "total").defaulted none (Json.nullable? Json.word?) }

end PageInfo

namespace Cell

/-- A cell as a document. -/
def json : Cell → Json
  | null => .null
  | integer i => .integer i.toInt
  | real x => if x.isFinite then .real x else .null
  | text s => .text s
  | boolean b => .boolean b
  | timestamp t => .text (String.ofList t.isoText)
  | blob bytes => .array (bytes.map fun b => .integer b.toNat)

/-- The cell of a document. -/
def ofJson? : Json → Option Cell
  | .null => some null
  | .integer i =>
    if Int64.minValue.toInt ≤ i ∧ i ≤ Int64.maxValue.toInt then some (integer (Int64.ofInt i))
    else some (real (Decimal.Binary64.ofInt i))
  | .real x => if x.isFinite then some (real x) else none
  | .text s => some (text s)
  | .boolean b => some (boolean b)
  | .array items => (items.mapM Json.byte?).map blob
  | _ => none

end Cell

namespace TableDocument

/-- A table as a document; what it does not have is left out. -/
def json (d : TableDocument) : Json :=
  .object <|
    ("id", .text d.id) :: Json.optionalMember "name" d.table.name ++
      [("columns", .array (d.table.columns.map Column.json)),
       ("rows", .array (d.table.rows.map fun row => .array (row.map Cell.json)))] ++
      Json.optionalMember "script" d.table.script ++
      (match d.table.pageInfo with
       | some page => [("pageInfo", page.json)]
       | none => [])

/-- The table of a document. -/
def ofJson? (j : Json) : Option TableDocument := do
  let slot ← j.slots? ["id", "name", "columns", "rows", "script", "pageInfo"]
  let id ← (slot "id").required Json.text?
  let name ← (slot "name").optional Json.text?
  let columns ← (slot "columns").required (Json.list? Column.ofJson?)
  let rows ← (slot "rows").required (Json.list? (Json.list? Cell.ofJson?))
  let script ← (slot "script").optional Json.text?
  let pageInfo ← (slot "pageInfo").optional PageInfo.ofJson?
  return ⟨id, { name, columns, rows, script, pageInfo }⟩

end TableDocument

end PagedQuery
