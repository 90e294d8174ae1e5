/-
# Rehearsed sources answer

A rehearsed source whose prepared rows can be read answers the queries they are
prepared for, from every stage: the number of rows before its cursor is all that a
stage says about them.  So what is shown of sources that answer is shown of rehearsed
ones, with cursors that can be moved and with cursors that cannot.
-/

import PagedQuery.Proofs.Source.Answers
import PagedQuery.Rehearsal.Source

namespace PagedQuery
namespace Rehearsal

namespace PreparedRows

/-- All rows, the numbered ones written out. -/
def all (p : PreparedRows) : List Row :=
  p.rows ++ (List.range p.numbered).map fun n => numberedRow (n + 1)

/-- The rows that are written out are as many as the source says it has. -/
theorem length_all (p : PreparedRows) : p.all.length = p.size := by
  simp [all, size]

/-- A row is found where it stands among all rows, be it written out or numbered. -/
theorem row?_eq (p : PreparedRows) (position : Nat) : p.row? position = p.all[position]? := by
  rw [row?, all]
  rcases Nat.lt_or_ge position p.rows.length with h | h
  · rw [List.getElem?_eq_getElem h, List.getElem?_append_left h, List.getElem?_eq_getElem h]
  · rw [List.getElem?_eq_none h, List.getElem?_append_right h, List.getElem?_map]
    by_cases inside : position < p.size
    · have numbered : position - p.rows.length < p.numbered := by
        rw [size] at inside; omega
      simp [inside, numbered]
    · have beyond : ¬ position - p.rows.length < p.numbered := by
        rw [size] at inside; omega
      simp [inside, beyond]

/-- The rows that a stage has left. -/
def leftOn (p : PreparedRows) (s : Stage) (rows : List Row) : Prop :=
  p.all.drop s.position = rows

variable {p : PreparedRows} {s : Stage}

/-- A step takes the first row that is left. -/
theorem step_endsIn (readable : p.failure = none) (event : Event) {row : Row} {rows : List Row}
    (h : p.leftOn s (row :: rows)) :
    (p.step event).EndsIn s (.ok (some row)) fun s => p.leftOn s rows := by
  have here : p.all[s.position]? = some row := by
    rw [← List.head?_drop, h, List.head?_cons]
  refine ⟨{ s.note event with position := s.position + 1 }, ?_, ?_⟩
  · simp [step, readable, Stage.note, row?_eq, here]
  · show p.all.drop (s.position + 1) = rows
    rw [← List.tail_drop, h, List.tail_cons]

/-- Where no row is left a step changes nothing but the record. -/
theorem step_endsIn_nil (readable : p.failure = none) (event : Event) (h : p.leftOn s []) :
    (p.step event).EndsIn s (.ok none) fun s => p.leftOn s [] := by
  have here : p.all[s.position]? = none := by
    rw [← List.head?_drop, h, List.head?_nil]
  exact ⟨s.note event, by simp [step, readable, Stage.note, row?_eq, here], h⟩

/-- The cursor over rows that can be read walks them. -/
theorem cursor_walks (readable : p.failure = none) : p.cursor.Walks p.leftOn (.ok ()) := by
  unfold cursor
  split
  · exact
      { read := fun h => step_endsIn readable .read h
        readStop := fun h => step_endsIn_nil readable .read h
        pass := fun h => (step_endsIn readable .skip h).bind fun s' h' => ⟨s', rfl, h'⟩
        passStop := fun h => (step_endsIn_nil readable .skip h).bind fun s' h' => ⟨s', rfl, h'⟩ }
  · exact Cursor.forwardOnly_walks (fun h => step_endsIn readable .read h)
      fun h => step_endsIn_nil readable .read h

/-- A movable cursor can be moved to any row. -/
theorem cursor_moves (movable : p.movable = true) (placed : p.positionFailure = none) :
    p.cursor.Moves p.leftOn p.all := by
  intro s _ position
  refine ⟨{ s.note (.position position) with position := min position p.size }, ?_, ?_⟩
  · simp [cursor, movable, moveTo, placed]
  · show p.all.drop (min position p.size) = p.all.drop position
    have whole := p.length_all
    rcases Nat.le_total position p.size with h | h
    · rw [Nat.min_eq_left h]
    · rw [Nat.min_eq_right h, List.drop_of_length_le (by omega), List.drop_of_length_le (by omega)]

/-- A cursor has the prepared columns, whether it can be moved or not. -/
theorem columns_cursor (p : PreparedRows) : p.cursor.columns = p.columns := by
  unfold cursor
  split <;> rfl

end PreparedRows

/-- A source answers the queries it has rows prepared for, from every stage. -/
theorem Script.answers {script : Script} {sql : String} {result : PreparedResult}
    {p : PreparedRows} (found : script.result? sql = some result)
    (prepared : result.answer = .ok (p, .once)) (admits : script.refused = [])
    (readable : p.failure = none) (placed : p.positionFailure = none) :
    script.source.Answers (fun _ => True) p.movable sql p.columns p.all := by
  intro s _
  refine ⟨script.connection, _, by simp only [source, connect, admits]; rfl, fun fetchSize => ?_⟩
  simp only [connection, query, found, prepared, Consumption.run]
  exact .offer p.leftOn p.columns_cursor rfl (PreparedRows.cursor_walks readable)
    (fun movable => PreparedRows.cursor_moves movable placed) fun _ => ⟨_, rfl, trivial⟩

/-- Metadata of a source without tables. -/
def PreparedMetadata.empty : PreparedMetadata where
  currentCatalog := .ok none
  catalogs := .ok []
  tables _ := .ok []
  columns _ _ := .ok []
  importedKeys _ _ := .ok []

/-- A source for queries alone, to which every connection can be opened. -/
def Script.ofResults (results : List PreparedResult) (positioning : Bool) : Script :=
  ⟨results, positioning, [], .empty⟩

/-- The empty text is a part of every text, so a result prepared for it is the answer to every
query. -/
theorem isWithin_nil (text : List Char) : isWithin [] text = true := by
  cases text <;> rfl

/-- Numbered rows that can be read. -/
def PreparedRows.counted (count : Nat) (movable : Bool) : PreparedRows :=
  ⟨[⟨"id", "INTEGER"⟩, ⟨"name", "VARCHAR(64)"⟩], [], count, movable, none, none⟩

/-- Numbered rows fit their columns. -/
theorem PreparedRows.length_of_mem_counted {count : Nat} {movable : Bool} {row : Row}
    (h : row ∈ (counted count movable).all) :
    row.length = (counted count movable).columns.length := by
  obtain ⟨n, -, rfl⟩ := List.mem_map.1 h
  rfl

/-- A source that answers every query with the same numbered rows. -/
def Script.counted (count : Nat) (movable : Bool) : Script :=
  .ofResults [⟨"", .ok (.counted count movable, .once)⟩] movable

/-- Numbered rows answer every query. -/
theorem Script.counted_answers (count : Nat) (movable : Bool) (sql : String) :
    (counted count movable).source.Answers (fun _ => True) movable sql
      (PreparedRows.counted count movable).columns (PreparedRows.counted count movable).all := by
  have found : (counted count movable).result? sql =
      some ⟨"", .ok (.counted count movable, .once)⟩ := by
    rw [result?, counted, ofResults, List.find?_cons_of_pos]
    exact isWithin_nil _
  exact answers found rfl rfl rfl rfl

/-- The answer to a query that counts. -/
def PreparedRows.ofCount (cell : Cell) : PreparedRows :=
  ⟨[⟨"COUNT(*)", "BIGINT"⟩], [[cell]], 0, false, none, none⟩

/-- A source that answers queries that count with a cell and all others with rows. -/
def Script.withCount (p : PreparedRows) (cell : Cell) : Script :=
  .ofResults [⟨"COUNT(", .ok (.ofCount cell, .once)⟩, ⟨"", .ok (p, .once)⟩] p.movable

section WithCount

variable {p : PreparedRows} {cell : Cell} {sql : String}

/-- A query that does not count is answered with the rows. -/
theorem Script.withCount_answers (rows : isWithin "COUNT(".toList sql.toList = false)
    (readable : p.failure = none) (placed : p.positionFailure = none) :
    (withCount p cell).source.Answers (fun _ => True) p.movable sql p.columns p.all := by
  have found : (withCount p cell).result? sql = some ⟨"", .ok (p, .once)⟩ := by
    have skipped : ¬ isWithin "COUNT(".toList sql.toList = true :=
      fun counts => Bool.false_ne_true (rows.symm.trans counts)
    rw [result?, withCount, ofResults, List.find?_cons_of_neg, List.find?_cons_of_pos]
    · exact isWithin_nil _
    · exact skipped
  exact answers found rfl rfl readable placed

/-- A query that counts is answered with the cell. -/
theorem Script.withCount_counts (counts : isWithin "COUNT(".toList sql.toList = true)
    {total : UInt64} (isTotal : cell.asCount? = some total) :
    (withCount p cell).source.Counts (fun _ => True) sql total.toNat := by
  have found : (withCount p cell).result? sql =
      some ⟨"COUNT(", .ok (.ofCount cell, .once)⟩ := by
    rw [result?, withCount, ofResults, List.find?_cons_of_pos]
    exact counts
  exact ⟨_, cell, [], [], total, answers found rfl rfl rfl rfl, isTotal, rfl⟩

end WithCount

end Rehearsal
end PagedQuery
