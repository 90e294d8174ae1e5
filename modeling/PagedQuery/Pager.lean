/-
# Reading pages

A page is read in one of two ways.  With the `native` strategy the SQL has a page clause, so all
of the result is the page, and it is read up to the page size.  With the `emulated` strategy the
SQL knows nothing of pages: the cursor is moved to the page's first row, at once where the driver
can do that and row by row where it cannot, and the page is read from there.

Every query opens a connection of its own and releases it.  The total is read by a query of its
own, which is run after the page was read.
-/

import PagedQuery.Materialize
import PagedQuery.Text.QuotedForm

namespace PagedQuery

/-- How a page is cut out of a result. -/
inductive PagingStrategy
  /-- By the source, from a page clause in the query. -/
  | native
  /-- By the pager, from the cursor over all rows. -/
  | emulated
deriving DecidableEq

/-- Runs queries on a source. -/
structure Pager (σ : Type) where
  source : Source σ
  capabilities : Capabilities
  /-- The most rows a driver is asked to fetch at once. -/
  maxFetchSize : Nat

namespace Pager

variable {σ : Type}

/-- The most rows a driver is asked to fetch at once where nothing else is said. -/
def defaultMaxFetchSize : Nat :=
  10000

/-- A pager with the default fetch size. -/
def ofSource (source : Source σ) (capabilities : Capabilities) : Pager σ :=
  ⟨source, capabilities, defaultMaxFetchSize⟩

/-- The pager with another fetch size, at least one. -/
def withMaxFetchSize (p : Pager σ) (size : Nat) : Pager σ :=
  { p with maxFetchSize := max size 1 }

/-- Runs a query and reads up to `cap` rows. -/
def execute (p : Pager σ) (sql : String) (cap : Nat) : Action σ Table :=
  p.source.withConnection fun c => c.withCursor sql none fun cursor => cursor.materialize cap

/-- A failure to move a cursor, said as one of the query. -/
def positioningFailure (sql : String) (e : Failure) : Failure :=
  .execution sql ("cursor positioning failed: " ++ e.text)

/-- Moves a cursor from its start to the row at a position. -/
def moveTo (p : Pager σ) (sql : String) (position : Nat) (cursor : Cursor σ) : Action σ Unit :=
  if position = 0 then .give ()
  else if p.capabilities.absolutePositioning then
    (cursor.positionAt position).mapFailure (positioningFailure sql)
  else cursor.skipRows position

/-- Runs a query that knows nothing of pages and cuts a page out of its cursor. -/
def executePage (p : Pager σ) (sql : String) (page : PageInfo) : Action σ Table := do
  .ofExcept page.validate
  let size := page.pageSize.toNat
  p.source.withConnection fun c =>
    c.withCursor sql (some (min size p.maxFetchSize)) fun cursor => do
      p.moveTo sql page.offset cursor
      cursor.materialize size

/-- What a message shows in place of a cell that was to be a count. -/
def cellDiagnosis : Option Cell → String
  | none => "None"
  | some .null => "Some(Null)"
  | some (.integer i) => "Some(Integer(" ++ String.ofList (Decimal.intDigits i.toInt) ++ "))"
  | some (.real x) => "Some(Real(" ++ String.ofList (Decimal.Layout.diagnostic.number x) ++ "))"
  | some (.text s) => "Some(Text(" ++ String.ofList (Text.quotedForm s.toList) ++ "))"
  | some (.boolean b) => "Some(Boolean(" ++ (if b then "true" else "false") ++ "))"
  | some (.timestamp t) => "Some(DateTime(" ++ String.ofList t.isoText ++ "))"
  | some (.blob bytes) =>
    "Some(Blob([" ++ String.intercalate ", " (bytes.map fun b => Decimal.numeral b.toNat) ++ "]))"

/-- The count in the first cell of a row. -/
def countOfRow (sql : String) (row : List Cell) : Except Failure UInt64 :=
  match row.head?.bind Cell.asCount? with
  | some n => .ok n
  | none =>
    .error (.execution sql
      ("count query returned a non-count value " ++ cellDiagnosis row.head?))

/-- Runs a query that counts and reads its single cell. -/
def count (p : Pager σ) (sql : String) : Action σ UInt64 :=
  p.source.withConnection fun c => c.withCursor sql none fun cursor => do
    match ← cursor.nextRow with
    | none => .fail (.execution sql "count query returned no rows")
    | some row => .ofExcept (countOfRow sql row)

/-- Reads a page and, if it is wanted, the total, which is noted in the page.  The
state holds the caller's page besides the source's. -/
def fetchPage (p : Pager σ) (strategy : PagingStrategy) (sql : String) (countSql : Option String) :
    Action (PageInfo × σ) Table := do
  let page ← fun s => (.ok s.1, s)
  let table ← .onSecond <| match strategy with
    | .native => p.execute sql page.pageSize.toNat
    | .emulated => p.executePage sql page
  if page.countTotal then
    match countSql with
    | none => .fail (.invalidParameter "total requested without a count query")
    | some countSql =>
      let total ← .onSecond (p.count countSql)
      let counted := { page with total := some total }
      fun s => (.ok (table.withPageInfo counted), (counted, s.2))
  else return table.withPageInfo page

end Pager

end PagedQuery
