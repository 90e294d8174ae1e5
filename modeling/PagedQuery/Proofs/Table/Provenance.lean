/-
# Where tables come from

Every table that a source gives was read from one of its cursors (`Table.WasRead`).  What is done
to it afterwards depends on who asked for it.  A pager hands it on as it was read, and so does a
query as it stands; SQL that was not rendered is put on the table; and a request on the source has
its page and its SQL put on it.

So what is true of all tables that were read, and not changed by these, is true of every table
from a source.
-/

import PagedQuery.Proofs.Adapter.Frame
import PagedQuery.Proofs.Source.Reading

namespace PagedQuery

variable {σ : Type}

/-- Whether a table was read from a cursor.  Which one, and how far, is of no matter to its
columns. -/
def Table.WasRead (σ : Type) (t : Table) : Prop :=
  ∃ (c : Cursor σ) (cap : Nat) (s s' : σ), c.materialize cap s = (.ok t, s')

namespace Pager

variable {p : Pager σ} {sql : String} {s s' : σ} {t : Table}

/-- A query's table is read from the cursor that answers it. -/
theorem wasRead_of_execute {cap : Nat} (h : p.execute sql cap s = (.ok t, s')) :
    t.WasRead σ := by
  obtain ⟨c, _, _, -, used, -⟩ := Source.withConnection_eq_ok_iff.1 h
  obtain ⟨cursor, _, _, _, -, read, -⟩ := Connection.withCursor_eq_ok_iff.1 used
  exact ⟨_, _, _, _, read⟩

/-- A page is read from a cursor as well, behind the rows that are passed over. -/
theorem wasRead_of_executePage {page : PageInfo} (h : p.executePage sql page s = (.ok t, s')) :
    t.WasRead σ := by
  obtain ⟨_, _, -, run⟩ := Action.bind_eq_ok_iff.1 h
  obtain ⟨c, _, _, -, used, -⟩ := Source.withConnection_eq_ok_iff.1 run
  obtain ⟨cursor, _, _, _, -, read, -⟩ := Connection.withCursor_eq_ok_iff.1 used
  obtain ⟨_, _, -, read⟩ := Action.bind_eq_ok_iff.1 read
  exact ⟨_, _, _, _, read⟩

/-- So a page is read from a cursor with either strategy. -/
theorem wasRead_of_readPage {strategy : PagingStrategy} {page : PageInfo}
    (h : p.readPage strategy sql page s = (.ok t, s')) : t.WasRead σ := by
  cases strategy with
  | native => exact wasRead_of_execute h
  | emulated => exact wasRead_of_executePage h

end Pager

namespace Adapter

variable {a : Adapter σ} {session session' : Session σ} {t : Table}

/-- An adapter's query is one of its pager. -/
theorem wasRead_of_runQuery {sql : String} (h : a.runQuery sql session = (.ok t, session')) :
    t.WasRead σ := by
  obtain ⟨_, _, -, executed, -⟩ := runQuery_eq_ok_iff.1 h
  exact Pager.wasRead_of_execute executed

/-- SQL that was not rendered is answered with a table that was read. -/
theorem exists_wasRead_of_executeSql {sql : String}
    (h : a.executeSql sql session = (.ok t, session')) :
    ∃ read : Table, read.WasRead σ ∧ t = read.withScript sql := by
  obtain ⟨read, _, run, gave⟩ := Action.bind_eq_ok_iff.1 h
  obtain rfl := Except.ok.inj (Prod.mk.inj gave).1
  exact ⟨read, wasRead_of_runQuery run, rfl⟩

/-- A request on the source is answered with a table that was read. -/
theorem exists_wasRead_of_execute_onSource {script : QueryScript} {request : Request}
    (onSource : request.localAggregate = false) {after : Request × Session σ}
    (h : a.execute script (request, session) = (.ok t, after)) :
    ∃ read : Table, ∃ page sql, read.WasRead σ ∧ t = (read.withPageInfo page).withScript sql := by
  obtain ⟨page, answered, -⟩ := (execute_onSource_eq_ok_iff onSource).1 h
  obtain ⟨sql, countSql, known, asked, read, world, -, -, reads, -, -, rfl⟩ :=
    readSource_eq_ok_iff.1 answered
  exact ⟨read, page, sql, Pager.wasRead_of_readPage reads, rfl⟩

end Adapter
end PagedQuery
