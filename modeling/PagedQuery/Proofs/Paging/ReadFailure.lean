/-
# A row that cannot be read

A cursor that cannot be moved gives rows and then fails (`Cursor.FailsBehind`), when it is to read
a row as well as when it is to pass over one.  A page is cut out of it, and how the page ends
depends on where the failing row stands.  Before the page, it is passed over and the failure ends
the page as it is.  In the page, it is read and the failure is told as one of reading a table.
Behind the page, it is never asked for.

So a failure is one of reading a table only where it is met in the page, or was one from the start
(`executePage_readFailure`): passing over rows does not tell it as one
(`exists_executePage_untold`).

What a source does around its cursor is left open.  It may end a query as it likes, as long as it
keeps the client's answer (`Source.Relays`).
-/

import PagedQuery.Proofs.Paging.Emulated
import PagedQuery.Proofs.Source.Capped

namespace PagedQuery

variable {σ α : Type}

/-- Told as a failure of reading a table, every failure is one. -/
theorem Failure.exists_asMaterialization (e : Failure) :
    ∃ m, e.asMaterialization = .materialization m := by
  cases e <;> exact ⟨_, rfl⟩

namespace Cursor

/-- Whether a cursor gives rows and then fails, if it is to read them as well as if it is to
pass over them. -/
def FailsBehind (c : Cursor σ) (e : Failure) : List Row → σ → Prop
  | [], s => (c.nextRow s).1 = .error e ∧ (c.skipRow s).1 = .error e
  | row :: rows, s =>
    c.nextRow.EndsIn s (.ok (some row)) (c.FailsBehind e rows) ∧
      c.skipRow.EndsIn s (.ok true) (c.FailsBehind e rows)

namespace FailsBehind

variable {c : Cursor σ} {e : Failure} {rows : List Row} {s : σ}

/-- To one who only reads, such a cursor gives its rows and then the failure. -/
theorem givesUntil (fails : c.FailsBehind e rows s) : c.GivesUntil s rows (.error e) := by
  induction rows generalizing s with
  | nil => exact givesUntil_nil_iff.2 fails.1
  | cons row rows ih =>
    obtain ⟨⟨s', first, others⟩, -⟩ := fails
    exact givesUntil_cons_iff.2 ⟨s', first, ih others⟩

/-- Passing over no more rows than there are leaves the others. -/
theorem skipRows (fails : c.FailsBehind e rows s) {count : Nat} (enough : count ≤ rows.length) :
    (c.skipRows count).EndsIn s (.ok ()) (c.FailsBehind e (rows.drop count)) := by
  induction count generalizing s rows with
  | zero => exact Action.give_endsIn () fails
  | succ count ih =>
    cases rows with
    | nil => exact absurd enough (Nat.not_succ_le_zero count)
    | cons row rows =>
      rw [Cursor.skipRows]
      exact fails.2.bind fun s' others => ih others (Nat.le_of_succ_le_succ enough)

/-- Passing over more rows than there are meets the failure. -/
theorem skipRows_error (fails : c.FailsBehind e rows s) {count : Nat}
    (fewer : rows.length < count) : (c.skipRows count s).1 = .error e := by
  induction count generalizing s rows with
  | zero => exact absurd fewer (Nat.not_lt_zero _)
  | succ count ih =>
    rw [Cursor.skipRows]
    cases rows with
    | nil => exact Action.fst_bind_eq_error fails.2
    | cons row rows =>
      obtain ⟨-, s', first, others⟩ := fails
      rw [Action.bind_apply, first]
      exact ih others (Nat.lt_of_succ_lt_succ fewer)

end FailsBehind

/-- A cursor that passes over a row by reading it fails wherever its reading does. -/
theorem forwardOnly_failsBehind {columns : List ColumnMeta} {nextRow : Action σ (Option Row)}
    {e : Failure} {rows : List Row} {s : σ}
    (given : (forwardOnly columns nextRow).GivesUntil s rows (.error e)) :
    (forwardOnly columns nextRow).FailsBehind e rows s := by
  induction rows generalizing s with
  | nil =>
    have ends : (nextRow s).1 = .error e := givesUntil_nil_iff.1 given
    exact ⟨ends, Action.fst_bind_eq_error ends⟩
  | cons row rows ih =>
    obtain ⟨s', first, others⟩ := givesUntil_cons_iff.1 given
    have read : nextRow.EndsIn s (.ok (some row))
      ((forwardOnly columns nextRow).FailsBehind e rows) := ⟨s', first, ih others⟩
    exact ⟨read, read.bind fun s' others => ⟨s', rfl, others⟩⟩

end Cursor

namespace Source

/-- Whether a source offers a cursor for a query, through a connection opened for it, and ends
the query as its client says. -/
def Relays (source : Source σ) (s : σ) (sql : String) (fetchSize : Option Nat)
    (cursor : Cursor σ) (start : σ) : Prop :=
  ∃ c opened resume, source.connect s = (.ok c, opened) ∧
    c.query sql fetchSize opened = .offer cursor start resume ∧
    ∀ answer s, (resume answer s).decline.1 = answer

/-- What is read from a source that ends a query as its client says is what the client reads. -/
theorem Relays.withCursor {source : Source σ} {s : σ} {sql : String} {fetchSize : Option Nat}
    {cursor : Cursor σ} {start : σ} (relays : source.Relays s sql fetchSize cursor start)
    (read : Cursor σ → Action σ α) :
    ((source.withConnection fun c => c.withCursor sql fetchSize read) s).1 =
      (read cursor start).1 := by
  obtain ⟨c, opened, resume, connected, asked, ends⟩ := relays
  simp only [withConnection, connected, Connection.withCursor, asked, QueryRun.collect]
  rcases read cursor start with ⟨e | a, stop⟩
  · dsimp only
    rw [ends]
    rfl
  · dsimp only
    rw [ends]
    rfl

end Source

/-- The size of a page that exists is positive. -/
theorem PageInfo.pageSize_pos {page : PageInfo} (valid : page.IsValid) :
    0 < page.pageSize.toNat := by
  refine Nat.pos_of_ne_zero fun zero => valid.2 ?_
  rw [← UInt64.toNat_inj, zero]
  rfl

namespace Pager

variable {p : Pager σ} {sql : String} {page : PageInfo} {cursor : Cursor σ} {start s : σ}
  {e : Failure} {rows : List Row}

/-- A cursor that is not moved passes over the rows before the page, or fails on them. -/
theorem moveTo_of_failsBehind (unpositioned : p.capabilities.absolutePositioning = false)
    (fails : cursor.FailsBehind e rows start) (position : Nat) :
    (rows.length < position ∧ (p.moveTo sql position cursor start).1 = .error e) ∨
      (position ≤ rows.length ∧ (p.moveTo sql position cursor).EndsIn start (.ok ())
        (cursor.FailsBehind e (rows.drop position))) := by
  have skips : p.moveTo sql position cursor = cursor.skipRows position := by
    rw [moveTo, unpositioned]
    split
    · next first => rw [first, Cursor.skipRows]
    · rfl
  rw [skips]
  rcases Nat.lt_or_ge rows.length position with fewer | enough
  · exact .inl ⟨fewer, fails.skipRows_error fewer⟩
  · exact .inr ⟨enough, fails.skipRows enough⟩

/-- A page that is cut out of a cursor that fails. -/
theorem executePage_of_failsBehind (unpositioned : p.capabilities.absolutePositioning = false)
    (valid : page.IsValid)
    (relays : p.source.Relays s sql (some (min page.pageSize.toNat p.maxFetchSize)) cursor start)
    (fails : cursor.FailsBehind e rows start) :
    (p.executePage sql page s).1 =
      if rows.length < page.offset then .error e
      else if rows.length < page.offset + page.pageSize.toNat then .error e.asMaterialization
      else Table.ofRows (cursor.columns.map ColumnMeta.column)
        ((rows.drop page.offset).take page.pageSize.toNat) := by
  have checked : page.validate = .ok () := page.validate_eq_ok_iff.2 valid
  -- The connection and the cursor are opened and released without a failure, so what the page
  -- gives is what comes of the cursor.
  have cut : (p.executePage sql page s).1 =
      ((p.moveTo sql page.offset cursor >>= fun _ =>
        cursor.materialize page.pageSize.toNat) start).1 := by
    rw [executePage, checked]
    exact relays.withCursor _
  rw [cut]
  rcases moveTo_of_failsBehind unpositioned fails page.offset with
    ⟨fewer, failed⟩ | ⟨enough, mid, moved, left⟩
  · rw [if_pos fewer, Action.fst_bind_eq_error failed]
  -- All rows before the page were passed over; the page has what is left of the rows, and may be
  -- full before the failure.
  · have inside : rows.length - page.offset < page.pageSize.toNat ↔
        rows.length < page.offset + page.pageSize.toNat := by omega
    rw [Action.bind_apply, moved, if_neg (Nat.not_lt.2 enough)]
    dsimp only
    rw [Cursor.materialize_of_givesUntil left.givesUntil, Cursor.upTo, List.length_drop]
    simp only [inside]
    split <;> rfl

/-- **A row that cannot be read ends its page.**  Let a source offer a cursor that is not moved,
and end the query as its client does.  The cursor's failure is the end of a page that exists, as
it is if it is met before the page, and told as one of reading a table if it is met in the page;
a page that is full before has its rows.  So a page fails wherever the failure is met up to its
last row, and it fails as a reading of a table if and only if the failure is met in the page or
was one of reading a table from the start. -/
theorem executePage_readFailure (unpositioned : p.capabilities.absolutePositioning = false)
    (valid : page.IsValid)
    (relays : p.source.Relays s sql (some (min page.pageSize.toNat p.maxFetchSize)) cursor start)
    (fails : cursor.FailsBehind e rows start) :
    (p.executePage sql page s).1 =
      (if rows.length < page.offset then .error e
      else if rows.length < page.offset + page.pageSize.toNat then .error e.asMaterialization
      else Table.ofRows (cursor.columns.map ColumnMeta.column)
        ((rows.drop page.offset).take page.pageSize.toNat)) ∧
    (rows.length < (page.pageNo.toNat - 1) * page.pageSize.toNat + page.pageSize.toNat →
      rows.length < UInt64.size →
        (∃ failure, (p.executePage sql page s).1 = .error failure) ∧
        ((∃ m, (p.executePage sql page s).1 = .error (.materialization m)) ↔
          page.offset ≤ rows.length ∨ ∃ m, e = .materialization m)) := by
  have result := executePage_of_failsBehind unpositioned valid relays fails
  refine ⟨result, fun inside few => ?_⟩
  -- The offset is the number of rows before the page, cut at the largest word.  Where it is cut,
  -- the failure still comes before the page is full, since there are fewer rows than words.
  have reached : rows.length < page.offset + page.pageSize.toNat := by
    have positive : 0 < page.pageSize.toNat := PageInfo.pageSize_pos valid
    rw [PageInfo.offset]
    omega
  rw [result]
  rcases Nat.lt_or_ge rows.length page.offset with before | within
  · rw [if_pos before]
    refine ⟨⟨e, rfl⟩, ?_, ?_⟩
    · rintro ⟨m, told⟩
      exact .inr ⟨m, Except.error.inj told⟩
    · rintro (within | ⟨m, rfl⟩)
      · exact absurd before (Nat.not_lt.2 within)
      · exact ⟨m, rfl⟩
  -- In the page every failure is told as one of reading a table, whatever it was.
  · obtain ⟨m, told⟩ := e.exists_asMaterialization
    rw [if_neg (Nat.not_lt.2 within), if_pos reached, told]
    exact ⟨⟨_, rfl⟩, fun _ => .inl within, fun _ => ⟨m, rfl⟩⟩

end Pager

/-- A rehearsed source offers its rows from the first one on, and ends a query as its client
does. -/
theorem Rehearsal.Script.relays {script : Script} {sql : String} {result : PreparedResult}
    {rows : PreparedRows} (found : script.result? sql = some result)
    (prepared : result.answer = .ok (rows, .once)) (admits : script.refused = []) (s : Stage)
    (fetchSize : Option Nat) :
    script.source.Relays s sql fetchSize rows.cursor
      { ({ s with connections := s.connections + 1 }.note .connect).note (.query fetchSize sql)
        with position := 0 } := by
  refine ⟨script.connection, _, .finish, by simp only [source, connect, admits]; rfl, ?_,
    fun _ _ => rfl⟩
  simp only [connection, query, found, prepared, Consumption.run]

namespace Pager

/-- Three rows, the last of which cannot be read. -/
def unreadable : Rehearsal.PreparedRows :=
  ⟨[⟨"id", "INTEGER"⟩], [[.integer 1], [.integer 2], [.integer 3]], 0, false,
    some (2, .connection "gone"), none⟩

/-- A rehearsed cursor over them gives two rows and fails, from its start on. -/
theorem unreadable_failsBehind {s : Rehearsal.Stage} (start : s.position = 0) :
    unreadable.cursor.FailsBehind (.connection "gone") (unreadable.rows.take 2) s := by
  obtain ⟨events, connections, position, calls⟩ := s
  obtain rfl : position = 0 := start
  exact Cursor.forwardOnly_failsBehind (Cursor.givesUntil_cons_iff.2 ⟨_, rfl,
    Cursor.givesUntil_cons_iff.2 ⟨_, rfl, Cursor.givesUntil_nil_iff.2 rfl⟩⟩)

/-- A pager over a source that answers every query with these rows. -/
def overUnreadable : Pager Rehearsal.Stage :=
  .ofSource (Rehearsal.Script.ofResults [⟨"", .ok (unreadable, .once)⟩] false).source ⟨false⟩

/-- For every query the source offers a cursor that fails behind its second row. -/
theorem exists_relays_unreadable (sql : String) (fetchSize : Option Nat) :
    ∃ start, overUnreadable.source.Relays .empty sql fetchSize unreadable.cursor start ∧
      unreadable.cursor.FailsBehind (.connection "gone") (unreadable.rows.take 2) start := by
  have found : (Rehearsal.Script.ofResults [⟨"", .ok (unreadable, .once)⟩] false).result? sql =
      some ⟨"", .ok (unreadable, .once)⟩ := by
    rw [Rehearsal.Script.result?, Rehearsal.Script.ofResults, List.find?_cons_of_pos]
    exact Rehearsal.isWithin_nil _
  exact ⟨_, Rehearsal.Script.relays found rfl rfl .empty fetchSize, unreadable_failsBehind rfl⟩

/-- The third row is in the second page of two rows. -/
theorem executePage_readFailure_gone :
    ∃ start, overUnreadable.capabilities.absolutePositioning = false ∧
      (PageInfo.request 2 2 false).IsValid ∧
      overUnreadable.source.Relays .empty "SELECT * FROM t" (some 2) unreadable.cursor start ∧
      unreadable.cursor.FailsBehind (.connection "gone") (unreadable.rows.take 2) start ∧
      ∃ m, (overUnreadable.executePage "SELECT * FROM t" (.request 2 2 false) .empty).1 =
        .error (.materialization m) := by
  obtain ⟨start, relays, fails⟩ := exists_relays_unreadable "SELECT * FROM t" (some 2)
  have valid : (PageInfo.request 2 2 false).IsValid := by decide
  obtain ⟨-, told⟩ := executePage_readFailure (p := overUnreadable) rfl valid relays fails
  exact ⟨start, rfl, valid, relays, fails,
    (told (by decide) (by decide)).2.2 (.inl (by decide))⟩

/-- Where the third row is before the page its failure is not told as one of reading a table,
and where it is in the page it is. -/
theorem exists_executePage_untold :
    let page := PageInfo.request 2 3 false
    page.IsValid ∧ overUnreadable.capabilities.absolutePositioning = false ∧
      (∃ start, overUnreadable.source.Relays .empty "SELECT * FROM t" (some 3)
          unreadable.cursor start ∧
        unreadable.cursor.FailsBehind (.connection "gone") (unreadable.rows.take 2) start) ∧
      2 < (page.pageNo.toNat - 1) * page.pageSize.toNat + page.pageSize.toNat ∧
      (overUnreadable.executePage "SELECT * FROM t" page .empty).1 =
        .error (.connection "gone") ∧
      (overUnreadable.executePage "SELECT * FROM t" (.request 1 3 false) .empty).1 =
        .error (.materialization "Connection error: gone") := by
  obtain ⟨start, relays, fails⟩ := exists_relays_unreadable "SELECT * FROM t" (some 3)
  refine ⟨by decide, rfl, ⟨start, relays, fails⟩, by decide, ?_, ?_⟩
  · exact executePage_of_failsBehind rfl (by decide) relays fails
  · exact executePage_of_failsBehind rfl (by decide) relays fails

end Pager
end PagedQuery
