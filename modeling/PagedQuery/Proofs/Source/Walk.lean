/-
# Walking a cursor

A cursor is described by the rows it still holds in each state of the world,
`left s rows`.  `Cursor.Walks` says that reading and passing over a row both take
the first of them, and what happens after the last one: `.ok ()` is the end of the
rows, a failure is the failure of every further step.  `Cursor.Moves` says that a
cursor that still holds all of its rows can be moved to any of them.

A read loop with a cap gives the first rows up to the cap (`Walks.materialize`),
and a loop that passes over rows drops as many (`Walks.skipRows`), also where there
are fewer.  A cursor that can only read walks as soon as its reading does
(`Cursor.forwardOnly_walks`).
-/

import PagedQuery.Materialize
import PagedQuery.Proofs.Action

namespace PagedQuery
namespace Cursor

variable {σ : Type}

/-- Whether a cursor that holds `left s` in the state `s` gives its rows one by one and
then stops as it is said. -/
structure Walks (c : Cursor σ) (left : σ → List Row → Prop) (stop : Except Failure Unit) :
    Prop where
  /-- A row that is read is the first one left. -/
  read : ∀ {s row rows}, left s (row :: rows) →
    c.nextRow.EndsIn s (.ok (some row)) fun s => left s rows
  /-- Behind the last row every reading stops as it is said. -/
  readStop : ∀ {s}, left s [] → c.nextRow.EndsIn s (stop.map fun _ => none) fun s => left s []
  /-- Passing over a row leaves the same rows as reading it. -/
  pass : ∀ {s row rows}, left s (row :: rows) → c.skipRow.EndsIn s (.ok true) fun s => left s rows
  /-- Behind the last row passing over one stops in the same way. -/
  passStop : ∀ {s}, left s [] → c.skipRow.EndsIn s (stop.map fun _ => false) fun s => left s []

/-- Whether a cursor that still holds all of `rows` can be moved to any position; beyond
the last row nothing is left. -/
def Moves (c : Cursor σ) (left : σ → List Row → Prop) (rows : List Row) : Prop :=
  ∀ {s}, left s rows → ∀ position,
    (c.positionAt position).EndsIn s (.ok ()) fun s => left s (rows.drop position)

namespace Walks

variable {c : Cursor σ} {left : σ → List Row → Prop} {rows : List Row} {s : σ}

/-- The read loop takes rows up to the cap, on top of those read before. -/
theorem readOnto (w : c.Walks left (.ok ())) (h : left s rows) (cap : Nat) (done : List Row) :
    (c.readOnto cap done).EndsIn s (.ok ((rows.take cap).reverse ++ done))
      fun s => left s (rows.drop cap) := by
  induction cap generalizing s rows done with
  | zero => exact Action.give_endsIn done h
  | succ cap ih =>
    rw [Cursor.readOnto]
    cases rows with
    | nil => exact (w.readStop h).mapFailure.bind fun s' h' => Action.give_endsIn done h'
    | cons row rows =>
      refine (w.read h).mapFailure.bind fun s' h' => ?_
      rw [List.take_succ_cons, List.reverse_cons, List.append_assoc]
      exact ih h' (row :: done)

/-- The rows read are the first ones up to the cap, in order. -/
theorem readRows (w : c.Walks left (.ok ())) (h : left s rows) (cap : Nat) :
    (c.readRows cap).EndsIn s (.ok (rows.take cap)) fun s => left s (rows.drop cap) := by
  refine (w.readOnto h cap []).bind fun s' h' => ⟨s', ?_, h'⟩
  rw [List.append_nil, List.reverse_reverse]
  rfl

/-- Rows are read into a table, up to the cap, if these fit the cursor's columns. -/
theorem materialize (w : c.Walks left (.ok ())) (h : left s rows) (cap : Nat)
    (fits : ∀ row ∈ rows.take cap, row.length = c.columns.length) :
    (c.materialize cap).EndsIn s
      (.ok ⟨none, c.columns.map ColumnMeta.column, rows.take cap, none, none⟩)
      fun s => left s (rows.drop cap) := by
  refine (w.readRows h cap).bind fun s' h' => ⟨s', ?_, h'⟩
  have taken : ∀ row ∈ rows.take cap, row.length = (c.columns.map ColumnMeta.column).length :=
    fun row hrow => by rw [List.length_map]; exact fits row hrow
  rw [Action.ofExcept, Table.ofRows, (Table.firstMisfit?_eq_none_iff ..).2 taken]

/-- Passing over rows drops them, or all of them where there are fewer. -/
theorem skipRows (w : c.Walks left (.ok ())) (h : left s rows) (count : Nat) :
    (c.skipRows count).EndsIn s (.ok ()) fun s => left s (rows.drop count) := by
  induction count generalizing s rows with
  | zero => exact Action.give_endsIn () h
  | succ count ih =>
    rw [Cursor.skipRows]
    cases rows with
    | nil => exact (w.passStop h).bind fun s' h' => Action.give_endsIn () h'
    | cons row rows => exact (w.pass h).bind fun s' h' => ih h'

end Walks

/-- A cursor that passes over a row by reading it walks if its reading does. -/
theorem forwardOnly_walks {columns : List ColumnMeta} {nextRow : Action σ (Option Row)}
    {left : σ → List Row → Prop} {stop : Except Failure Unit}
    (read : ∀ {s row rows}, left s (row :: rows) →
      nextRow.EndsIn s (.ok (some row)) fun s => left s rows)
    (readStop : ∀ {s}, left s [] → nextRow.EndsIn s (stop.map fun _ => none) fun s => left s []) :
    (forwardOnly columns nextRow).Walks left stop where
  read := read
  readStop := readStop
  pass h := (read h).bind fun s' h' => ⟨s', rfl, h'⟩
  passStop h := by
    cases stop with
    | ok _ => exact (readStop h).bind fun s' h' => ⟨s', rfl, h'⟩
    | error e => exact (readStop h).bind_error

end Cursor
end PagedQuery
