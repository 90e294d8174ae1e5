/-
# Sources that answer

A source answers a query with rows if, from every state of a class `ready`, a connection can be
opened, the query offers a cursor over the rows and ends well once its client is content, and the
state after the connection is released is of the class again.  So the source can be asked again
and again.

On such a source a reading of the cursor that succeeds gives what it gives on the cursor
(`Answers.withCursor`), the full query with a cap gives the first rows (`Answers.execute`), and a
count query whose first cell is a count gives the count (`Counts.count`).  Nothing else is assumed
of a source where a page or a total is said to be right.
-/

import PagedQuery.Pager
import PagedQuery.Proofs.Source.Walk

namespace PagedQuery

variable {σ α : Type}

/-- Whether a query offers a cursor over rows before anything else and, once its client
is content, ends well in a state of a class.  If `canMove` is set, the cursor can be
moved to any row. -/
inductive QueryRun.Yields (canMove : Bool) (columns : List ColumnMeta) (rows : List Row)
    (after : σ → Prop) : QueryRun σ → Prop
  | offer {cursor : Cursor σ} {s : σ} {resume : Except Failure Unit → σ → QueryRun σ}
      (left : σ → List Row → Prop) (head : cursor.columns = columns) (start : left s rows)
      (walks : cursor.Walks left (.ok ())) (moves : canMove = true → cursor.Moves left rows)
      (ends : ∀ {s rest}, left s rest →
        ∃ s', (resume (.ok ()) s).decline = (.ok (), s') ∧ after s') :
      Yields canMove columns rows after (.offer cursor s resume)

namespace Source

/-- Whether a source answers a query with rows from every state of a class, and is in
such a state again afterwards. -/
def Answers (source : Source σ) (ready : σ → Prop) (canMove : Bool) (sql : String)
    (columns : List ColumnMeta) (rows : List Row) : Prop :=
  ∀ s, ready s → ∃ c s', source.connect s = (.ok c, s') ∧ ∀ fetchSize,
    (c.query sql fetchSize s').Yields canMove columns rows fun s => ready (c.close s)

/-- Whether a source answers a query with a count in its first cell.  Whatever else it gives is not
looked at. -/
def Counts (source : Source σ) (ready : σ → Prop) (sql : String) (count : Nat) : Prop :=
  ∃ columns cell cells rows total,
    source.Answers ready false sql columns ((cell :: cells) :: rows) ∧
    Cell.asCount? cell = some total ∧ total.toNat = count

namespace Answers

variable {source : Source σ} {ready : σ → Prop} {canMove : Bool} {sql : String}
  {columns : List ColumnMeta} {rows : List Row}

/-- A reading that succeeds on every cursor over the rows succeeds on the source. -/
theorem withCursor (answers : source.Answers ready canMove sql columns rows)
    {fetchSize : Option Nat} {read : Cursor σ → Action σ α} {a : α}
    (reads : ∀ cursor : Cursor σ, ∀ left s, cursor.columns = columns → left s rows →
      cursor.Walks left (.ok ()) → (canMove = true → cursor.Moves left rows) →
        (read cursor).EndsIn s (.ok a) fun s => ∃ rest, left s rest)
    {s : σ} (hs : ready s) :
    (source.withConnection fun c => c.withCursor sql fetchSize read).EndsIn s (.ok a) ready := by
  obtain ⟨c, s₁, connected, asked⟩ := answers s hs
  -- A source that answers does not end the query without an offer, and it offers one cursor.
  cases run : c.query sql fetchSize s₁ with
  | finish result s₂ =>
    have yields := asked fetchSize
    rw [run] at yields
    cases yields
  | offer cursor s₂ resume =>
    have yields := asked fetchSize
    rw [run] at yields
    cases yields with
    | offer left head start walks moves ends =>
      obtain ⟨s₃, gave, rest, held⟩ := reads cursor left s₂ head start walks moves
      obtain ⟨s₄, ended, after⟩ := ends held
      refine ⟨c.close s₄, ?_, after⟩
      simp only [withConnection, connected, Connection.withCursor, run, QueryRun.collect, gave,
        ended, Except.map]

/-- A query that is read in full gives its first rows, up to the cap. -/
theorem execute {p : Pager σ} (answers : p.source.Answers ready canMove sql columns rows)
    (cap : Nat) (fits : ∀ row ∈ rows.take cap, row.length = columns.length) {s : σ}
    (hs : ready s) :
    (p.execute sql cap).EndsIn s
      (.ok ⟨none, columns.map ColumnMeta.column, rows.take cap, none, none⟩) ready := by
  refine answers.withCursor (fun cursor left s head start walks _ => ?_) hs
  subst head
  exact (walks.materialize start cap fits).mono fun s h => ⟨_, h⟩

end Answers

/-- A count query gives the count in its first cell. -/
theorem Counts.count {p : Pager σ} {ready : σ → Prop} {sql : String} {count : Nat}
    (counts : p.source.Counts ready sql count) :
    ∃ total, total.toNat = count ∧
      ∀ s, ready s → (p.count sql).EndsIn s (.ok total) ready := by
  obtain ⟨columns, cell, cells, rows, total, answers, isTotal, isCount⟩ := counts
  refine ⟨total, isCount, fun s hs => ?_⟩
  refine answers.withCursor (fun cursor left s _ start walks _ => ?_) hs
  refine (walks.read start).bind fun s' h' => ?_
  have row : Pager.countOfRow sql (cell :: cells) = .ok total := by
    simp [Pager.countOfRow, isTotal]
  rw [← row]
  exact Action.ofExcept_endsIn _ ⟨rows, h'⟩

end Source
end PagedQuery
