/-
# Data sources

What the library needs of a driver: open a connection, run a query and walk its
cursor, read metadata.  `σ` is the state of the world the driver acts on.

A cursor can be reached only while its query runs.  What a driver does with a
query is a `QueryRun`: it offers cursors to its client any number of times, goes
on as the client's answers let it, and ends with a result.  The client reads the
first cursor only (`QueryRun.collect`), whatever the driver offers later, and it
is the driver that decides what a failed reading means for the query.
-/

import PagedQuery.Action
import PagedQuery.Cell

namespace PagedQuery

/-- The name of a column and the name of its type in the driver's words. -/
structure ColumnMeta where
  name : String
  typeName : String
deriving DecidableEq

/-- A column of a table that refers to a primary key. -/
structure ImportedKey where
  column : String
  keyCatalog : Option String
  keyTable : Option String
  keyColumn : Option String
deriving DecidableEq

/-- What a driver can do. -/
structure Capabilities where
  /-- Whether its cursors can be moved to any row. -/
  absolutePositioning : Bool
deriving DecidableEq

/-- A handle on the rows of a query, moving forward. -/
structure Cursor (σ : Type) where
  /-- The columns, known before the first row is read. -/
  columns : List ColumnMeta
  /-- Reads the next row; `none` when there is none. -/
  nextRow : Action σ (Option (List Cell))
  /-- Passes over one row; whether there was one. -/
  skipRow : Action σ Bool
  /-- Moves so that the next row read is the one at this position, counted from zero. -/
  positionAt : Nat → Action σ Unit

/-- A cursor that can only read: it passes over a row by reading it and cannot be
moved. -/
def Cursor.forwardOnly {σ : Type} (columns : List ColumnMeta)
    (nextRow : Action σ (Option (List Cell))) : Cursor σ where
  columns
  nextRow
  skipRow := do
    let row ← nextRow
    return row.isSome
  positionAt position :=
    .fail (.materialization
      ("cursor cannot be positioned at row " ++ Decimal.numeral position))

/-- What a driver does with a query: it ends, or offers a cursor and goes on with the
client's answer. -/
inductive QueryRun (σ : Type)
  | finish (result : Except Failure Unit) (state : σ)
  | offer (cursor : Cursor σ) (state : σ) (resume : Except Failure Unit → σ → QueryRun σ)

namespace QueryRun

variable {σ α : Type}

/-- The end of a run whose client leaves every further cursor alone and is content. -/
def decline : QueryRun σ → Except Failure Unit × σ
  | finish result s => (result, s)
  | offer _ s resume => (resume (.ok ()) s).decline

/-- The end of a run whose client reads the first cursor: the driver's result, and
what was read, if a cursor was offered and the reading succeeded. -/
def collect (read : Cursor σ → Action σ α) : QueryRun σ → Except Failure (Option α) × σ
  | finish result s => (result.map fun _ => none, s)
  | offer cursor s resume =>
    match read cursor s with
    | (.ok a, s) =>
      let (result, s) := (resume (.ok ()) s).decline
      (result.map fun _ => some a, s)
    | (.error e, s) =>
      let (result, s) := (resume (.error e) s).decline
      (result.map fun _ => none, s)

end QueryRun

/-- An open connection. -/
structure Connection (σ : Type) where
  /-- Runs a query; the number is how many rows to fetch at once. -/
  query : String → Option Nat → σ → QueryRun σ
  /-- The catalog the connection is bound to. -/
  currentCatalog : Action σ (Option String)
  catalogs : Action σ (List String)
  tables : String → Action σ (List String)
  /-- The columns of a table, in the driver's order. -/
  columns : String → String → Action σ (List ColumnMeta)
  importedKeys : String → String → Action σ (List ImportedKey)
  /-- Releases the connection. -/
  close : σ → σ

/-- A place that connections are opened to. -/
structure Source (σ : Type) where
  connect : Action σ (Connection σ)
  capabilities : σ → Capabilities × σ

namespace Connection

variable {σ α : Type}

/-- The failure of a query that ended well although nothing was read. -/
def noCursor (sql : String) : Failure :=
  .execution sql "driver did not produce a result cursor"

/-- Runs a query and reads its first cursor.  There is a value only if the driver
ended well and the reading succeeded. -/
def withCursor (c : Connection σ) (sql : String) (fetchSize : Option Nat)
    (read : Cursor σ → Action σ α) : Action σ α := fun s =>
  match (c.query sql fetchSize s).collect read with
  | (.ok (some a), s) => (.ok a, s)
  | (.ok none, s) => (.error (noCursor sql), s)
  | (.error e, s) => (.error e, s)

end Connection

namespace Source

variable {σ α : Type}

/-- Does something with a connection opened for it, and releases the connection
whether it succeeded or not. -/
def withConnection (source : Source σ) (use : Connection σ → Action σ α) : Action σ α := fun s =>
  match source.connect s with
  | (.error e, s) => (.error e, s)
  | (.ok c, s) =>
    let (result, s) := use c s
    (result, c.close s)

/-- A source that nothing can be reached through. -/
def unreachable (message : String) : Source σ where
  connect := .fail (.connection message)
  capabilities s := (⟨false⟩, s)

end Source

end PagedQuery
