/-
# Fetches that are refused

A fetch cannot be answered if its page does not exist, or if a total is wanted and there is no
query for it.  What becomes of it depends on the strategy.  An emulated fetch of a page that does
not exist is refused, and the driver is asked for nothing.  A native one asks for the page's query
all the same and gives what that gives.  And a total without a query is missed only when the page
was read: until then the driver is asked for the page's query, whose failure comes first.

So only the first of them is refused before anything is asked of the driver
(`fetchPage_refused_iff`): the second is not found out, and the third only when the page was read
(`exists_fetchPage_unrefused`).  The calls of the driver are seen by watching the source
(`Pager.watched`), and watching changes nothing (`fetchPage_watched`), so the equivalence is one
about the fetch itself.
-/

import PagedQuery.Proofs.Adapter.Discipline

namespace PagedQuery

namespace Pager

variable {σ : Type} {p : Pager σ} {strategy : PagingStrategy} {sql : String}
  {countSql : Option String} {page : PageInfo} {calls : List Call} {world s : σ}

/-- A page that is to be cut out of a cursor and does not exist is refused, and nothing is
changed. -/
theorem fetchPage_of_validate_error {e : Failure} (refused : page.validate = .error e) :
    p.fetchPage .emulated sql countSql (page, s) = (.error e, (page, s)) := by
  have read : p.readPage .emulated sql page s = (.error e, s) :=
    executePage_of_validate_error refused s
  rw [fetchPage_apply, readNoted, Action.bind_apply, read]

/-- A fetch leaves the source as the reading of the page and its total does. -/
theorem fetchPage_world :
    (p.fetchPage strategy sql countSql (page, s)).2.2 =
      (p.readNoted strategy sql countSql page s).2 := by
  rw [fetchPage_apply]
  rcases p.readNoted strategy sql countSql page s with ⟨e | ⟨table, noted⟩, s'⟩ <;> rfl

/-- A total that is wanted without a query is missed when the page was read. -/
theorem fetchPage_of_countSql_eq_none (wanted : page.countTotal = true) (p : Pager σ)
    (strategy : PagingStrategy) (sql : String) (s : σ) :
    (p.fetchPage strategy sql none (page, s)).1 =
        .error (match (p.readPage strategy sql page s).1 with
          | .ok _ => .invalidParameter "total requested without a count query"
          | .error e => e) ∧
      (p.fetchPage strategy sql none (page, s)).2.1 = page := by
  rw [fetchPage_apply, readNoted, Action.bind_apply]
  rcases p.readPage strategy sql page s with ⟨e | read, mid⟩
  · exact ⟨rfl, rfl⟩
  · dsimp only
    rw [Action.bind_apply, noteTotal.eq_def, if_pos wanted]
    exact ⟨rfl, rfl⟩

/-- Watching a fetch changes nothing. -/
theorem fetchPage_watched (p : Pager σ) (strategy : PagingStrategy) (sql : String)
    (countSql : Option String) (page : PageInfo) (calls : List Call) (world : σ) :
    (p.watched.fetchPage strategy sql countSql (page, (calls, world))).1 =
        (p.fetchPage strategy sql countSql (page, world)).1 ∧
      (p.watched.fetchPage strategy sql countSql (page, (calls, world))).2.1 =
        (p.fetchPage strategy sql countSql (page, world)).2.1 ∧
      (p.watched.fetchPage strategy sql countSql (page, (calls, world))).2.2.2 =
        (p.fetchPage strategy sql countSql (page, world)).2.2 := by
  -- Only a page that is cut out of a cursor is looked at before a connection is opened; that
  -- refusal happens before anything is to be watched.
  by_cases reached : strategy = .emulated → page.IsValid
  · obtain ⟨result, plain, -⟩ := readNoted_watches (p := p) reached sql countSql (calls, world)
    rw [fetchPage_apply, fetchPage_apply]
    rcases watched : p.watched.readNoted strategy sql countSql page (calls, world) with ⟨r, s⟩
    rcases alone : p.readNoted strategy sql countSql page world with ⟨r', s'⟩
    obtain rfl : r = r' := by simpa only [watched, alone, Watching.plain] using result
    obtain rfl : s.2 = s' := by simpa only [watched, alone, Watching.plain] using plain
    rcases r with e | ⟨table, noted⟩ <;> exact ⟨rfl, rfl, rfl⟩
  · obtain ⟨rfl, invalid⟩ := Classical.not_imp.1 reached
    obtain ⟨m, refused⟩ := PageInfo.validate_of_not_isValid invalid
    rw [fetchPage_of_validate_error refused, fetchPage_of_validate_error refused]
    exact ⟨rfl, rfl, rfl⟩

/-- Any other fetch asks for a connection for its page first, and for nothing else if there is
no query for a total. -/
theorem fetchPage_calls (p : Pager σ) (reached : strategy = .emulated → page.IsValid)
    (sql : String) (countSql : Option String) (calls : List Call) (world : σ) :
    ∃ first later,
      (p.watched.fetchPage strategy sql countSql (page, (calls, world))).2.2.1 =
        calls ++ (first ++ later) ∧
      Call.IsAttempt (Call.openings calls) sql first ∧ (countSql = none → later = []) := by
  obtain ⟨own, put, shape⟩ := readNoted_calls (p := p) reached sql countSql calls world
  rw [fetchPage_world, put]
  rcases shape with attempt | ⟨read, world', text, count, -, rfl, -, -, rfl⟩
  · exact ⟨own, [], by rw [List.append_nil], attempt, fun _ => rfl⟩
  · exact ⟨Call.visit (Call.openings calls) sql, count, rfl, .inr rfl, nofun⟩

/-- **Only an emulated page that does not exist is refused beforehand.**  Whatever is fetched,
watching the source changes nothing.  A fetch fails for a parameter, with its caller's page, the
source and its calls as they were, if and only if its page is to be cut out of a cursor and
does not exist.  Any other fetch asks for a connection for the page's query first.  If its total
is wanted without a query, it asks for nothing else, leaves its caller's page as it was, and
fails as the page's query does or, when the page was read, for the parameter. -/
theorem fetchPage_refused_iff (p : Pager σ) (strategy : PagingStrategy) (sql : String)
    (countSql : Option String) (page : PageInfo) (calls : List Call) (world : σ) :
    let ended := p.watched.fetchPage strategy sql countSql (page, (calls, world))
    (ended.1 = (p.fetchPage strategy sql countSql (page, world)).1 ∧
      ended.2.1 = (p.fetchPage strategy sql countSql (page, world)).2.1 ∧
      ended.2.2.2 = (p.fetchPage strategy sql countSql (page, world)).2.2) ∧
    ((∃ m, ended = (.error (.invalidParameter m), (page, (calls, world)))) ↔
      strategy = .emulated ∧ ¬ page.IsValid) ∧
    (¬ (strategy = .emulated ∧ ¬ page.IsValid) → ∃ first later,
      ended.2.2.1 = calls ++ (first ++ later) ∧
      Call.IsAttempt (Call.openings calls) sql first ∧
      (page.countTotal = true → countSql = none →
        later = [] ∧ ended.2.1 = page ∧
        ended.1 = .error (match (p.readPage strategy sql page world).1 with
          | .ok _ => .invalidParameter "total requested without a count query"
          | .error e => e))) := by
  intro ended
  have watched := fetchPage_watched p strategy sql countSql page calls world
  have asks (other : ¬ (strategy = .emulated ∧ ¬ page.IsValid)) :=
    fetchPage_calls p (not_and_not_right.1 other) sql countSql calls world
  refine ⟨watched, ⟨?_, ?_⟩, fun other => ?_⟩
  · rintro ⟨m, refused⟩
    by_contra other
    obtain ⟨first, later, put, attempt, -⟩ := asks other
    have still : ended.2.2.1 = calls := by rw [refused]
    -- An attempt is never empty, so a fetch that leaves the calls as they were made none.
    have nothing : first ++ later = [] := List.append_right_eq_self.1 (put.symm.trans still)
    obtain ⟨rfl, -⟩ := List.append_eq_nil_iff.1 nothing
    rcases attempt with refusal | visit
    · cases refusal
    · cases visit
  · rintro ⟨rfl, invalid⟩
    obtain ⟨m, refused⟩ := PageInfo.validate_of_not_isValid invalid
    exact ⟨m, fetchPage_of_validate_error refused⟩
  · obtain ⟨first, later, put, attempt, only⟩ := asks other
    refine ⟨first, later, put, attempt, ?_⟩
    rintro wanted rfl
    obtain ⟨result, kept, -⟩ := watched
    obtain ⟨missed, same⟩ := fetchPage_of_countSql_eq_none wanted p strategy sql world
    exact ⟨only rfl, kept.trans same, result.trans missed⟩

/-- A page of number zero is read, and a total without a query is missed only when the page was
read. -/
theorem exists_fetchPage_unrefused :
    let rows := Rehearsal.PreparedRows.counted 2 false
    let p := Pager.ofSource (Rehearsal.Script.counted 2 false).source ⟨false⟩
    let zero := PageInfo.request 0 10 false
    let counted := PageInfo.request 1 10 true
    (¬ zero.IsValid ∧
      ((p.fetchPage .native "SELECT * FROM numbers" none (zero, .empty)).1.toOption.map
        Table.rows) = some rows.all ∧
      (p.fetchPage .native "SELECT * FROM numbers" none (zero, .empty)).2.2.connections = 1) ∧
    (counted.countTotal = true ∧
      ∀ strategy,
        (p.fetchPage strategy "SELECT * FROM numbers" none (counted, .empty)).2.2.connections = 1) := by
  refine ⟨by decide +kernel, rfl, fun strategy => ?_⟩
  cases strategy <;> decide +kernel

end Pager
end PagedQuery
