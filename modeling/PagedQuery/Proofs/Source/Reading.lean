/-
# What a reading has seen

A reading that succeeded tells what the source did.  `Cursor.Gives` says that a cursor gives rows
one after another, `Cursor.GivesAll` that these are all it has.  Rows up to a cap are read exactly
if the cursor gives as many, or fewer and then no more; a table is read exactly if these rows fit
the columns (`Cursor.materialize_eq_ok_iff`).  A query is read exactly if a cursor is offered, its
reading succeeds and the driver ends well, and on a connection of its own exactly if in addition
one can be opened.

Nothing is asked of the source.  Since a state decides what happens next, the rows read up to a
cap are the first of all the rows (`ReadsUpTo.eq_take`).  These are equivalences, so they serve to
take a run apart as well as to put one together.
-/

import PagedQuery.Pager
import PagedQuery.Proofs.Action

namespace PagedQuery

variable {σ α : Type}

namespace Cursor

/-- Whether a cursor gives rows, one after another, on the way from one state to another.  The rows
behind them are not spoken of. -/
inductive Gives (c : Cursor σ) : σ → List Row → σ → Prop
  | done (s : σ) : Gives c s [] s
  | row {s mid stop : σ} {row : Row} {rows : List Row} (first : c.nextRow s = (.ok (some row), mid))
    (others : Gives c mid rows stop) : Gives c s (row :: rows) stop

/-- Whether a cursor gives rows and then has no more.  A cursor that fails behind them does not. -/
def GivesAll (c : Cursor σ) (s : σ) (rows : List Row) : Prop :=
  ∃ stop s', c.Gives s rows stop ∧ c.nextRow stop = (.ok none, s')

/-- Whether a cursor gives rows and is left then: because there are as many as the cap, or
because there are fewer and it has no more. -/
def ReadsUpTo (c : Cursor σ) (cap : Nat) (s : σ) (rows : List Row) (s' : σ) : Prop :=
  ∃ stop, c.Gives s rows stop ∧
    (rows.length = cap ∧ s' = stop ∨ rows.length < cap ∧ c.nextRow stop = (.ok none, s'))

variable {c : Cursor σ} {cap : Nat} {s s' : σ} {rows : List Row}

/-- With a cap of zero the cursor is left where it is. -/
theorem readsUpTo_zero_iff : c.ReadsUpTo 0 s rows s' ↔ rows = [] ∧ s' = s := by
  constructor
  · rintro ⟨stop, gives, ⟨full, rfl⟩ | ⟨fewer, -⟩⟩
    · obtain rfl := List.length_eq_zero_iff.1 full
      cases gives
      exact ⟨rfl, rfl⟩
    · exact absurd fewer (Nat.not_lt_zero _)
  · rintro ⟨rfl, rfl⟩
    exact ⟨_, .done _, .inl ⟨rfl, rfl⟩⟩

/-- Under a larger cap the cursor has no row, or gives one and is read on. -/
theorem readsUpTo_succ_iff :
    c.ReadsUpTo (cap + 1) s rows s' ↔
      (rows = [] ∧ c.nextRow s = (.ok none, s')) ∨
      ∃ first others mid, rows = first :: others ∧ c.nextRow s = (.ok (some first), mid) ∧
        c.ReadsUpTo cap mid others s' := by
  constructor
  · rintro ⟨stop, gives, ended⟩
    cases gives with
    | done => exact .inl ⟨rfl, by simpa using ended⟩
    | row first others =>
      refine .inr ⟨_, _, _, rfl, first, stop, others, ?_⟩
      simpa using ended
  · rintro (⟨rfl, last⟩ | ⟨first, others, mid, rfl, read, stop, gives, ended⟩)
    · exact ⟨s, .done s, .inr ⟨Nat.succ_pos cap, last⟩⟩
    · exact ⟨stop, .row read gives, by simpa using ended⟩

/-- The read loop puts the rows it has seen on top of those read before. -/
theorem readOnto_eq_ok_iff {done read : List Row} :
    c.readOnto cap done s = (.ok read, s') ↔
      ∃ rows, c.ReadsUpTo cap s rows s' ∧ read = rows.reverse ++ done := by
  -- On the cap.  The rows seen so far are on a pile, so they are in the wrong order until the
  -- end.
  induction cap generalizing s done with
  | zero =>
    simp only [readOnto, Action.give, readsUpTo_zero_iff, Prod.mk.injEq, Except.ok.injEq]
    constructor
    · rintro ⟨rfl, rfl⟩
      exact ⟨[], ⟨rfl, rfl⟩, rfl⟩
    · rintro ⟨_, ⟨rfl, rfl⟩, rfl⟩
      exact ⟨rfl, rfl⟩
  | succ cap ih =>
    rw [readOnto, Action.bind_eq_ok_iff]
    constructor
    · rintro ⟨next, mid, reads, goes_on⟩
      rw [Action.mapFailure_eq_ok_iff] at reads
      cases next with
      | none =>
        obtain ⟨⟨⟩, rfl⟩ := Prod.mk.inj goes_on
        exact ⟨[], readsUpTo_succ_iff.2 (.inl ⟨rfl, reads⟩), rfl⟩
      | some first =>
        obtain ⟨others, seen, rfl⟩ := ih.1 goes_on
        exact ⟨first :: others, readsUpTo_succ_iff.2 (.inr ⟨_, _, mid, rfl, reads, seen⟩), by simp⟩
    · rintro ⟨rows, seen, rfl⟩
      rcases readsUpTo_succ_iff.1 seen with ⟨rfl, last⟩ | ⟨first, others, mid, rfl, reads, seen⟩
      · exact ⟨none, s', Action.mapFailure_eq_ok_iff.2 last, rfl⟩
      · refine ⟨some first, mid, Action.mapFailure_eq_ok_iff.2 reads, ih.2 ⟨others, seen, ?_⟩⟩
        simp

/-- The rows come in the order in which the cursor gives them. -/
theorem readRows_eq_ok_iff :
    c.readRows cap s = (.ok rows, s') ↔ c.ReadsUpTo cap s rows s' := by
  simp only [readRows, Action.bind_eq_ok_iff, readOnto_eq_ok_iff, Action.pure_apply]
  constructor
  · rintro ⟨_, mid, ⟨seen, reads, rfl⟩, same⟩
    obtain ⟨same, rfl⟩ := Prod.mk.inj same
    obtain rfl : seen = rows := by simpa using same
    exact reads
  · intro reads
    exact ⟨_, s', ⟨rows, reads, rfl⟩, by simp⟩

/-- A table is read if rows are and fit the columns. -/
theorem materialize_eq_ok_iff {t : Table} :
    c.materialize cap s = (.ok t, s') ↔
      c.ReadsUpTo cap s t.rows s' ∧
        (∀ row ∈ t.rows, row.length = c.columns.length) ∧
        t = ⟨none, c.columns.map ColumnMeta.column, t.rows, none, none⟩ := by
  simp only [materialize, Action.bind_eq_ok_iff, Action.ofExcept_eq_ok_iff, readRows_eq_ok_iff,
    Table.ofRows]
  constructor
  · rintro ⟨rows, mid, reads, built, rfl⟩
    split at built
    · cases built
    -- No row is a misfit, which is to say that all of them fit.
    · next fits =>
      obtain rfl := Except.ok.inj built
      rw [Table.firstMisfit?_eq_none_iff, List.length_map] at fits
      exact ⟨reads, fits, rfl⟩
  · rintro ⟨reads, fits, built⟩
    refine ⟨t.rows, s', reads, ?_, rfl⟩
    rw [(Table.firstMisfit?_eq_none_iff ..).2 (by simpa using fits), built]

/-- **The rows read up to a cap are the first of all the rows.**  They are not chosen, nor is their
order. -/
theorem ReadsUpTo.eq_take {all : List Row} (reads : c.ReadsUpTo cap s rows s')
    (given : c.GivesAll s all) : rows = all.take cap := by
  induction cap generalizing s rows all with
  | zero => rw [(readsUpTo_zero_iff.1 reads).1, List.take_zero]
  | succ cap ih =>
    obtain ⟨stop, ended, gives, last⟩ := given
    -- The reading stopped at the end or went on with a row; the cursor gives one answer, so the
    -- list of all rows ends or goes on as well.
    rcases readsUpTo_succ_iff.1 reads with ⟨rfl, none_left⟩ | ⟨first, others, mid, rfl, read, reads⟩
    · cases gives with
      | done => rfl
      | row first _ =>
        rw [first] at none_left
        cases none_left
    · cases gives with
      | done =>
        rw [read] at last
        cases last
      | row first' others' =>
        obtain ⟨⟨⟩, rfl⟩ := Prod.mk.inj (read.symm.trans first')
        rw [List.take_succ_cons, ih reads ⟨stop, ended, others', last⟩]

end Cursor

/-- A query is read if it offers a cursor, the reading of this succeeds and the driver ends
well. -/
theorem Connection.withCursor_eq_ok_iff {c : Connection σ} {sql : String} {fetchSize : Option Nat}
    {read : Cursor σ → Action σ α} {s s' : σ} {a : α} :
    c.withCursor sql fetchSize read s = (.ok a, s') ↔
      ∃ cursor start resume stop, c.query sql fetchSize s = .offer cursor start resume ∧
        read cursor start = (.ok a, stop) ∧ (resume (.ok ()) stop).decline = (.ok (), s') := by
  rw [withCursor]
  cases c.query sql fetchSize s with
  | finish result s => cases result <;> simp [QueryRun.collect, Except.map]
  | offer cursor start resume =>
    rw [QueryRun.collect]
    constructor
    · intro ended
      rcases gave : read cursor start with ⟨e | b, stop⟩
      -- A reading that fails has the driver told so, and then the query has no value, whatever
      -- the driver says.
      · rw [gave] at ended
        rcases resumed : (resume (.error e) stop).decline with ⟨_ | _, last⟩ <;>
          simp [resumed, Except.map] at ended
      · rw [gave] at ended
        rcases resumed : (resume (.ok ()) stop).decline with ⟨_ | _, last⟩
        · simp [resumed, Except.map] at ended
        · obtain ⟨rfl, rfl⟩ : b = a ∧ last = s' := by simpa [resumed, Except.map] using ended
          exact ⟨cursor, start, resume, stop, rfl, gave, resumed⟩
    · rintro ⟨_, _, _, stop, ⟨⟩, gave, resumed⟩
      simp [gave, resumed, Except.map]

namespace Source

/-- Work with a connection succeeds if one can be opened and the work succeeds. -/
theorem withConnection_eq_ok_iff {source : Source σ} {use : Connection σ → Action σ α} {s s' : σ}
    {a : α} :
    source.withConnection use s = (.ok a, s') ↔
      ∃ c opened mid, source.connect s = (.ok c, opened) ∧ use c opened = (.ok a, mid) ∧
        s' = c.close mid := by
  rw [withConnection]
  rcases source.connect s with ⟨e | c, opened⟩
  · simp
  · simp only [Prod.mk.injEq, Except.ok.injEq]
    constructor
    · rintro ⟨gave, rfl⟩
      exact ⟨c, opened, _, ⟨rfl, rfl⟩, Prod.ext gave rfl, rfl⟩
    · rintro ⟨_, _, mid, ⟨rfl, rfl⟩, used, rfl⟩
      rw [used]
      exact ⟨rfl, rfl⟩

/-- Whether a source offers a cursor for a query, through a connection opened for it.  Whether it
offers another one later is not asked. -/
def Offers (source : Source σ) (s : σ) (sql : String) (fetchSize : Option Nat)
    (cursor : Cursor σ) (start : σ) : Prop :=
  ∃ c opened resume, source.connect s = (.ok c, opened) ∧
    c.query sql fetchSize opened = .offer cursor start resume

end Source

/-- A query that gave a table was answered with a cursor over its rows. -/
theorem Pager.exists_offers_of_execute {p : Pager σ} {sql : String} {cap : Nat} {s s' : σ}
    {t : Table} (h : p.execute sql cap s = (.ok t, s')) :
    ∃ cursor start stop, p.source.Offers s sql none cursor start ∧
      cursor.ReadsUpTo cap start t.rows stop ∧
      t.columns = cursor.columns.map ColumnMeta.column := by
  obtain ⟨c, opened, mid, connected, used, -⟩ := Source.withConnection_eq_ok_iff.1 h
  obtain ⟨cursor, start, resume, stop, asked, read, -⟩ := Connection.withCursor_eq_ok_iff.1 used
  obtain ⟨reads, -, built⟩ := Cursor.materialize_eq_ok_iff.1 read
  exact ⟨cursor, start, stop, ⟨c, opened, resume, connected, asked⟩, reads, by rw [built]⟩

end PagedQuery
