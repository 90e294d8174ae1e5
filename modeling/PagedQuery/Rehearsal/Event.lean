/-
# What happens on a source

Everything that is asked of a rehearsed source, in order, and the lines it is shown
in.  Steps of a cursor that follow one another and are alike share a line with their
number, and none is lost (`flatMap_replicate_grouped`).
-/

import PagedQuery.Decimal.Digits

namespace PagedQuery
namespace Rehearsal

/-- Something that happened on a source. -/
inductive Event
  | capabilities
  | connect
  | connectFailed
  | close
  | query (fetchSize : Option Nat) (sql : String)
  | read
  | skip
  | position (row : Nat)
  | currentCatalog
  | catalogs
  | tables (catalog : String)
  | columns (catalog table : String)
  | importedKeys (catalog table : String)
deriving DecidableEq

namespace Event

/-- Whether an event is a step of a cursor to its next row. -/
def isStep : Event → Bool
  | read | skip => true
  | _ => false

/-- The text of an event. -/
def text : Event → String
  | capabilities => "capabilities"
  | connect => "connect"
  | connectFailed => "connect failed"
  | close => "close"
  | query fetchSize sql =>
    "query fetch=" ++ (fetchSize.map Decimal.numeral).getD "none" ++ ": " ++ sql
  | read => "read"
  | skip => "skip"
  | position row => "position " ++ Decimal.numeral row
  | currentCatalog => "current_catalog"
  | catalogs => "catalogs"
  | tables catalog => "tables " ++ catalog
  | columns catalog table => "columns " ++ catalog ++ "." ++ table
  | importedKeys catalog table => "imported_keys " ++ catalog ++ "." ++ table

/-- Events with their numbers; equal steps that follow one another are one entry. -/
def grouped : List Event → List (Event × Nat)
  | [] => []
  | event :: events =>
    match grouped events with
    | [] => [(event, 1)]
    | (next, count) :: rest =>
      if event.isStep && event == next then (next, count + 1) :: rest
      else (event, 1) :: (next, count) :: rest

/-- No event is lost. -/
theorem flatMap_replicate_grouped (events : List Event) :
    (grouped events).flatMap (fun entry => List.replicate entry.2 entry.1) = events := by
  induction events with
  | nil => rfl
  | cons event events ih =>
    unfold grouped
    split
    · simp_all
    · next next count rest found =>
      rw [found] at ih
      split
      · next same =>
        obtain rfl : event = next := by
          rw [Bool.and_eq_true, beq_iff_eq] at same
          exact same.2
        rw [← ih]
        simp [List.replicate_succ]
      · rw [← ih]
        simp

/-- The line of an entry. -/
def line (event : Event) (count : Nat) : String :=
  if event.isStep then event.text ++ " x" ++ Decimal.numeral count else event.text

/-- The lines of events. -/
def lines (events : List Event) : List String :=
  (grouped events).map fun (event, count) => line event count

end Event

end Rehearsal
end PagedQuery
