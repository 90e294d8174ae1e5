/-
# Rehearsed sources

A source that answers from what was prepared for it and keeps a record of what is asked: a
stand-in for a driver.  A query is answered with the first prepared result whose key its SQL
contains; a query that contains no key is refused.

A prepared result offers its cursor to the client once, never or twice, or it swallows what the
client says of it (`Consumption`), so that a client can also be seen at work with a driver that
does not keep to its contract.  Every query starts at its first row.
-/

import PagedQuery.Rehearsal.Event
import PagedQuery.Request
import PagedQuery.Source.Basic
import PagedQuery.Table

namespace PagedQuery
namespace Rehearsal

/-- A call of an aggregator. -/
structure AggregatorCall where
  name : Option String
  request : Request
  tables : List Table
deriving DecidableEq

/-- What has happened so far. -/
structure Stage where
  /-- The events, last one first. -/
  events : List Event
  /-- The number of connections that were asked for. -/
  connections : Nat
  /-- The position of the cursor that is open: how many rows are before it. -/
  position : Nat
  /-- The calls of the aggregator, last one first. -/
  calls : List AggregatorCall

namespace Stage

/-- A stage on which nothing has happened. -/
def empty : Stage :=
  ⟨[], 0, 0, []⟩

/-- The stage after one more event. -/
def note (s : Stage) (event : Event) : Stage :=
  { s with events := event :: s.events }

/-- The stage with its records emptied. -/
def fresh (s : Stage) : Stage :=
  { s with events := [], calls := [] }

end Stage

/-- The rows prepared for a query. -/
structure PreparedRows where
  columns : List ColumnMeta
  /-- The first rows. -/
  rows : List Row
  /-- How many numbered rows come after them. -/
  numbered : Nat
  /-- Whether the cursor passes over rows and moves by means of its own. -/
  movable : Bool
  /-- The position that cannot be read, and why. -/
  failure : Option (Nat × Failure)
  /-- Why the cursor cannot be moved. -/
  positionFailure : Option Failure

namespace PreparedRows

/-- The number of all rows. -/
def size (p : PreparedRows) : Nat :=
  p.rows.length + p.numbered

/-- A numbered row, counted from one. -/
def numberedRow (n : Nat) : Row :=
  [.integer (Int64.ofNat n), .text ("name_" ++ Decimal.numeral n)]

/-- The row at a position. -/
def row? (p : PreparedRows) (position : Nat) : Option Row :=
  match p.rows[position]? with
  | some row => some row
  | none =>
    if position < p.size then some (numberedRow (position - p.rows.length + 1)) else none

/-- Takes the row at the cursor's position and moves on. -/
def step (p : PreparedRows) (event : Event) : Action Stage (Option Row) := fun s =>
  let s := s.note event
  match p.failure.filter fun (position, _) => position == s.position with
  | some (_, failure) => (.error failure, s)
  | none =>
    match p.row? s.position with
    | some row => (.ok (some row), { s with position := s.position + 1 })
    | none => (.ok none, s)

/-- Moves to a position; beyond the last row is the end. -/
def moveTo (p : PreparedRows) (position : Nat) : Action Stage Unit := fun s =>
  let s := s.note (.position position)
  match p.positionFailure with
  | some failure => (.error failure, s)
  | none => (.ok (), { s with position := min position p.size })

/-- The cursor over the rows. -/
def cursor (p : PreparedRows) : Cursor Stage :=
  if p.movable then
    { columns := p.columns
      nextRow := p.step .read
      skipRow := do
        let row ← p.step .skip
        return row.isSome
      positionAt := p.moveTo }
  else .forwardOnly p.columns (p.step .read)

end PreparedRows

/-- How often a prepared result offers its cursor, and what comes of it. -/
inductive Consumption
  | once
  | never
  | twice
  | swallow
deriving DecidableEq

/-- A run that offers a cursor as often as it is said. -/
def Consumption.run (cursor : Cursor Stage) (s : Stage) : Consumption → QueryRun Stage
  | once => .offer cursor s .finish
  | never => .finish (.ok ()) s
  | twice => .offer cursor s fun
    | .ok (), s => .offer cursor s .finish
    | .error failure, s => .finish (.error failure) s
  | swallow => .offer cursor s fun _ s => .finish (.ok ()) s

/-- What is prepared for the queries that contain a key. -/
structure PreparedResult where
  key : String
  /-- The rows, or what the query is refused with. -/
  answer : Except String (PreparedRows × Consumption)

/-- What is prepared for questions about metadata; a failure stands in place of any
answer. -/
structure PreparedMetadata where
  currentCatalog : Except Failure (Option String)
  catalogs : Except Failure (List String)
  tables : String → Except Failure (List String)
  columns : String → String → Except Failure (List ColumnMeta)
  importedKeys : String → String → Except Failure (List ImportedKey)

/-- Everything that is prepared for a source. -/
structure Script where
  results : List PreparedResult
  /-- Whether its cursors are said to be movable. -/
  positioning : Bool
  /-- The numbers of the connections that are refused, counted from zero. -/
  refused : List Nat
  metadata : PreparedMetadata

/-- Whether a text stands anywhere in another. -/
def isWithin (key : List Char) : (text : List Char) → Bool
  | [] => key.isEmpty
  | c :: cs => key.isPrefixOf (c :: cs) || isWithin key cs

namespace Script

/-- The result prepared for a query. -/
def result? (script : Script) (sql : String) : Option PreparedResult :=
  script.results.find? fun r => isWithin r.key.toList sql.toList

/-- Runs a query. -/
def query (script : Script) (sql : String) (fetchSize : Option Nat) (s : Stage) : QueryRun Stage :=
  let s := s.note (.query fetchSize sql)
  match script.result? sql with
  | none => .finish (.error (.execution sql "no scripted result")) s
  | some result =>
    match result.answer with
    | .error reason => .finish (.error (.execution sql reason)) s
    | .ok (rows, consumption) => consumption.run rows.cursor { s with position := 0 }

/-- Answers a question about metadata. -/
def answer {α : Type} (event : Event) (prepared : Except Failure α) : Action Stage α := fun s =>
  (prepared, s.note event)

/-- A connection. -/
def connection (script : Script) : Connection Stage where
  query := script.query
  currentCatalog := answer .currentCatalog script.metadata.currentCatalog
  catalogs := answer .catalogs script.metadata.catalogs
  tables catalog := answer (.tables catalog) (script.metadata.tables catalog)
  columns catalog table := answer (.columns catalog table) (script.metadata.columns catalog table)
  importedKeys catalog table :=
    answer (.importedKeys catalog table) (script.metadata.importedKeys catalog table)
  close s := s.note .close

/-- Opens a connection, unless its number is one of those refused. -/
def connect (script : Script) : Action Stage (Connection Stage) := fun s =>
  let next := { s with connections := s.connections + 1 }
  if script.refused.contains s.connections then
    (.error (.connection "scripted connection refused"), next.note .connectFailed)
  else (.ok script.connection, next.note .connect)

/-- The source. -/
def source (script : Script) : Source Stage where
  connect := script.connect
  capabilities s := (⟨script.positioning⟩, s.note .capabilities)

end Script

/-- What an aggregator does when it is called. -/
inductive PreparedAggregator
  /-- Gives back the first table. -/
  | first
  /-- Fails. -/
  | fail
  /-- Gives a table without columns and rows. -/
  | empty
deriving DecidableEq

/-- The table an aggregator gives for those it is handed. -/
def PreparedAggregator.answer (tables : List Table) : PreparedAggregator → Except Failure Table
  | fail => .error (.aggregation "engine unavailable")
  | empty => Table.ofRows [] []
  | first =>
    match tables with
    | table :: _ => .ok table
    | [] => Table.ofRows [] []

/-- The aggregator, which keeps a record of its calls. -/
def PreparedAggregator.aggregate (a : PreparedAggregator) (name : Option String)
    (request : Request) (tables : List Table) : Action Stage Table := fun s =>
  (a.answer tables, { s with calls := ⟨name, request, tables⟩ :: s.calls })

end Rehearsal
end PagedQuery
