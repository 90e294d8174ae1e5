/-
# Emulated pages are exact

A page that is cut out of the cursor of a query that knows nothing of pages is the
page's window of the query's rows.  There are two ways to the page's first row: the
cursor is moved there at once, or rows are passed over one by one until there are no
more (`moveTo_endsIn`).  Both leave the same rows, so both give the same page, and the
pages of one size put together are all rows (`executePage_exact`).
-/

import PagedQuery.Proofs.Paging.Window
import PagedQuery.Proofs.Rehearsal.Answers

namespace PagedQuery
namespace Pager

variable {σ : Type}

/-- Either way a cursor is moved, it then holds the rows from the position on. -/
theorem moveTo_endsIn (p : Pager σ) {cursor : Cursor σ} {left : σ → List Row → Prop}
    {rows : List Row} {s : σ} (start : left s rows) (walks : cursor.Walks left (.ok ()))
    (moves : p.capabilities.absolutePositioning = true → cursor.Moves left rows)
    (sql : String) (position : Nat) :
    (p.moveTo sql position cursor).EndsIn s (.ok ()) fun s => left s (rows.drop position) := by
  rw [moveTo]
  split
  · next first =>
    rw [first, List.drop_zero]
    exact Action.give_endsIn () start
  split
  · next positioning => exact (moves positioning start position).mapFailure
  · exact walks.skipRows start position

/-- The table of a page of rows. -/
def pageTable (columns : List ColumnMeta) (page : PageInfo) (rows : List Row) : Table :=
  ⟨none, columns.map ColumnMeta.column, page.window rows, none, none⟩

variable {p : Pager σ} {ready : σ → Prop} {sql : String} {columns : List ColumnMeta}
  {rows : List Row}

/-- A page that exists is read as the window of the query's rows. -/
theorem executePage_endsIn
    (answers : p.source.Answers ready p.capabilities.absolutePositioning sql columns rows)
    {page : PageInfo} (valid : page.IsValid)
    (fits : ∀ row ∈ page.window rows, row.length = columns.length) (few : rows.length < UInt64.size)
    {s : σ} (hs : ready s) :
    (p.executePage sql page).EndsIn s (.ok (pageTable columns page rows)) ready := by
  have checked : page.validate = .ok () := page.validate_eq_ok_iff.2 valid
  rw [executePage, checked]
  refine (Action.ofExcept_endsIn (.ok ()) hs).bind fun s hs => ?_
  refine answers.withCursor (fun cursor left s head start walks moves => ?_) hs
  refine (p.moveTo_endsIn start walks moves sql page.offset).bind fun s h => ?_
  subst head
  rw [← page.take_drop_offset few] at fits
  rw [pageTable, ← page.take_drop_offset few]
  exact (walks.materialize h page.pageSize.toNat fits).mono fun s h => ⟨_, h⟩

/-- A page that does not exist is refused before the source is touched. -/
theorem executePage_of_validate_error {page : PageInfo} {e : Failure}
    (refused : page.validate = .error e) (s : σ) : p.executePage sql page s = (.error e, s) := by
  rw [executePage, refused]
  rfl

/-- **Emulated paging is exact.**  Over a source that answers a query with fewer than
`2 ^ 64` rows that fit its columns, every page that exists is the window of the rows,
where the rows before the page are counted without any bound; a source whose cursors
can be moved and one whose cursors cannot give the same for every page; and the pages of
one size that the rows fill, read one after another, are the rows. -/
theorem executePage_exact
    (answers : p.source.Answers ready p.capabilities.absolutePositioning sql columns rows)
    (fits : ∀ row ∈ rows, row.length = columns.length) (few : rows.length < UInt64.size) :
    (∀ page : PageInfo, page.IsValid → ∀ s, ready s →
      (p.executePage sql page).EndsIn s (.ok (pageTable columns page rows)) ready) ∧
    (∀ {τ : Type} {q : Pager τ} {ready' : τ → Prop},
      q.source.Answers ready' q.capabilities.absolutePositioning sql columns rows →
        ∀ (page : PageInfo) (s : σ) (t : τ), ready s → ready' t →
          (p.executePage sql page s).1 = (q.executePage sql page t).1) ∧
    (∀ (size : UInt64) (countTotal : Bool), size ≠ 0 → ∀ s, ready s → ∃ tables,
      ((PageInfo.cover size rows.length countTotal).mapM (p.executePage sql)).EndsIn s
        (.ok tables) ready ∧ tables.flatMap Table.rows = rows) := by
  have inside : ∀ page : PageInfo, ∀ row ∈ page.window rows, row.length = columns.length :=
    fun page row hrow => fits row (page.mem_of_mem_window hrow)
  refine ⟨fun page valid s hs => executePage_endsIn answers valid (inside page) few hs, ?_, ?_⟩
  -- A page that does not exist is refused before a cursor is asked for, so here too both give the
  -- same.
  · intro τ q ready' answers' page s t hs ht
    by_cases valid : page.IsValid
    · rw [(executePage_endsIn answers valid (inside page) few hs).fst_eq,
        (executePage_endsIn answers' valid (inside page) few ht).fst_eq]
    · cases checked : page.validate with
      | ok _ => exact absurd (page.validate_eq_ok_iff.1 checked) valid
      | error e => rw [executePage_of_validate_error checked, executePage_of_validate_error checked]
  · intro size countTotal positive s hs
    refine ⟨(PageInfo.cover size rows.length countTotal).map (pageTable columns · rows), ?_, ?_⟩
    · exact Action.EndsIn.mapM hs fun page hpage s hs =>
        executePage_endsIn answers (PageInfo.isValid_of_mem_cover positive few hpage)
          (inside page) few hs
    -- Side by side the windows of the pages are the rows.
    · rw [List.flatMap_map]
      exact PageInfo.flatMap_window_cover positive few

/-- The hypotheses are satisfiable, with and without cursors that can be moved: of seven
numbered rows the third page of three is the last row, a page whose offset fits no word
is empty, and the three pages together are all rows. -/
theorem executePage_exact_seven :
    let rows := (Rehearsal.PreparedRows.counted 7 true).all
    let columns := (Rehearsal.PreparedRows.counted 7 true).columns
    let pager movable := ofSource (Rehearsal.Script.counted 7 movable).source ⟨movable⟩
    let far : PageInfo := ⟨0x8000000000000001, 0x8000000000000000, false, none⟩
    ((pager true).executePage "numbers" ⟨3, 3, false, none⟩ .empty).1 =
        .ok (pageTable columns ⟨3, 3, false, none⟩ rows) ∧
      PageInfo.window ⟨3, 3, false, none⟩ rows = [Rehearsal.PreparedRows.numberedRow 7] ∧
      far.window rows = [] ∧
      ((pager true).executePage "numbers" far .empty).1 =
        ((pager false).executePage "numbers" far .empty).1 ∧
      ∃ tables, ((PageInfo.cover 3 7 false).mapM ((pager false).executePage "numbers")
        |>.EndsIn .empty (.ok tables) fun _ => True) ∧ tables.flatMap Table.rows = rows := by
  intro rows columns pager far
  -- One source, once with cursors that can be moved and once without.
  have answers := fun movable => Rehearsal.Script.counted_answers 7 movable "numbers"
  have pages := fun movable => executePage_exact (p := pager movable) (answers movable)
    (fun _ => Rehearsal.PreparedRows.length_of_mem_counted)
    (by rw [Rehearsal.PreparedRows.length_all]; exact (by decide : 7 < UInt64.size))
  refine ⟨?_, rfl, ?_, ?_, ?_⟩
  · exact ((pages true).1 ⟨3, 3, false, none⟩ (by decide) .empty trivial).fst_eq
  · exact List.eq_nil_of_length_eq_zero (by rw [PageInfo.length_window]; decide +kernel)
  · exact (pages true).2.1 (q := pager false) (answers false) far .empty .empty trivial trivial
  · exact (pages false).2.2 3 false (by decide) .empty trivial

end Pager
end PagedQuery
