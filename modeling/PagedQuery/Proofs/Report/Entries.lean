/-
# The rows of a JSON report

The JSON report of a table has an entry for each row, an object in which the cells stand under the
names of their columns.  Members of an object are put in one after another, so of several columns
with one name it is the cell of the last one that an entry has: it has as many values as there are
different names (`IsEntry`).  It has all cells of its row if and only if no two columns have the
same name (`IsEntry.keepsCells_iff`), since otherwise it has fewer values than the row has cells.

What is said of entries is said twice, of the report as a value and of its text, which is read as
a report with the same entries up to what numbers are read as (`entries_keepsCells_iff`).
-/

import PagedQuery.Proofs.Json.Transport
import PagedQuery.Report.Basic
import Mathlib.Data.List.Dedup
import Mathlib.Data.String.Basic

namespace PagedQuery

/-! ### Members whose names repeat -/

namespace Json

variable {name other : String} {value : Json} {done members : List (String × Json)}

/-- Looking a name up stops at the first member of it. -/
theorem lookup_cons_eq_ite (member : String × Json) (members : List (String × Json))
    (name : String) : (member :: members).lookup name =
      if name = member.1 then some member.2 else members.lookup name := by
  rw [List.lookup_cons]
  by_cases same : name = member.1
  · rw [if_pos same, beq_iff_eq.2 same]
  · rw [if_neg same, beq_eq_false_iff_ne.2 same]

/-- Exactly the names that are there are found. -/
theorem exists_lookup_eq_some_iff :
    (∃ value, members.lookup name = some value) ↔ name ∈ members.map Prod.fst := by
  induction members with
  | nil => simp
  | cons member members ih =>
    rw [lookup_cons_eq_ite, List.map_cons, List.mem_cons, ← ih]
    by_cases same : name = member.1 <;> simp [same]

/-- The value of a name in the last member of it. -/
theorem lookup_reverse_eq_some_iff :
    members.reverse.lookup name = some value ↔
      ∃ before after, members = before ++ (name, value) :: after ∧ name ∉ after.map Prod.fst := by
  rw [List.lookup_eq_some_iff]
  constructor
  · rintro ⟨after, before, whole, apart⟩
    refine ⟨before.reverse, after.reverse, ?_, fun inside => ?_⟩
    · rw [← List.reverse_reverse members, whole]
      simp
    · obtain ⟨member, inside, same⟩ := List.mem_map.1 inside
      simpa [same] using apart member (List.mem_reverse.1 inside)
  · rintro ⟨before, after, rfl, apart⟩
    refine ⟨after.reverse, before.reverse, by simp, fun member inside => ?_⟩
    have given := List.mem_map_of_mem (f := Prod.fst) (List.mem_reverse.1 inside)
    exact bne_iff_ne.2 fun same => apart (same ▸ given)

/-- A member that is put in is found under its name, in place of one that stood there. -/
theorem lookup_insertMember (name : String) (value : Json) (done : List (String × Json))
    (other : String) : (insertMember name value done).lookup other =
      if other = name then some value else done.lookup other := by
  -- On the members that are there, which are gone through until the place of the new one is
  -- found: the same name, a greater name, or the end.
  induction done with
  | nil => rw [insertMember, lookup_cons_eq_ite]
  | cons member done ih =>
    obtain ⟨first, kept⟩ := member
    rw [insertMember]
    split
    · next here =>
      subst here
      by_cases same : other = name <;> simp only [lookup_cons_eq_ite, same, if_true, if_false]
    split
    · rw [lookup_cons_eq_ite]
    · next there _ =>
      rw [lookup_cons_eq_ite, lookup_cons_eq_ite, ih]
      by_cases same : other = name
      · rw [if_pos same, if_pos same, if_neg (same ▸ there)]
      · rw [if_neg same, if_neg same]

/-- Putting a member in adds its name and no other. -/
theorem mem_map_fst_insertMember :
    other ∈ (insertMember name value done).map Prod.fst ↔
      other = name ∨ other ∈ done.map Prod.fst := by
  simp only [← exists_lookup_eq_some_iff, lookup_insertMember]
  by_cases same : other = name <;> simp [same]

/-- Members stay sorted when one is put among them. -/
theorem pairwise_insertMember (sorted : (done.map Prod.fst).Pairwise (· < ·)) :
    ((insertMember name value done).map Prod.fst).Pairwise (· < ·) := by
  induction done with
  | nil => exact List.pairwise_singleton ..
  | cons member done ih =>
    obtain ⟨first, kept⟩ := member
    rw [List.map_cons, List.pairwise_cons] at sorted
    obtain ⟨least, sorted⟩ := sorted
    rw [insertMember]
    split
    · next here =>
      subst here
      exact .cons least sorted
    split
    -- The new name is less than the first one, and that one than all others.
    · next before =>
      refine .cons (fun other inside => ?_) (.cons least sorted)
      rcases List.mem_cons.1 inside with rfl | inside
      · exact before
      · exact before.trans (least other inside)
    · next apart behind =>
      refine .cons (fun other inside => ?_) (ih sorted)
      rcases mem_map_fst_insertMember.1 inside with rfl | inside
      · exact lt_of_le_of_ne (not_lt.1 behind) (Ne.symm apart)
      · exact least other inside

/-- The members of an object stand in the order of their names. -/
theorem pairwise_sortedMembers (sorted : (done.map Prod.fst).Pairwise (· < ·)) :
    ((sortedMembers done members).map Prod.fst).Pairwise (· < ·) := by
  induction members generalizing done with
  | nil => rwa [sortedMembers]
  | cons member members ih =>
    rw [sortedMembers]
    exact ih (pairwise_insertMember sorted)

/-- Of the members of a name the last stays. -/
theorem lookup_sortedMembers (done members : List (String × Json)) (name : String) :
    (sortedMembers done members).lookup name =
      ((members.reverse.lookup name).map sorted).or (done.lookup name) := by
  induction members generalizing done with
  | nil => rw [sortedMembers]; rfl
  | cons member members ih =>
    rw [sortedMembers, ih, lookup_insertMember, List.reverse_cons, List.lookup_append,
      lookup_cons_eq_ite, List.lookup_nil]
    cases members.reverse.lookup name with
    | some last => rfl
    | none => by_cases same : name = member.1 <;> simp [same]

/-- **Sorted members are the last ones of each name.**  Members are put in one after another, and
each takes the place of those of its name before it. -/
theorem mem_sortedMembers_iff :
    (name, value) ∈ sortedMembers [] members ↔
      ∃ last, members.reverse.lookup name = some last ∧ last.sorted = value := by
  have distinct : ((sortedMembers [] members).map Prod.fst).Nodup :=
    (pairwise_sortedMembers .nil).imp ne_of_lt
  rw [← lookup_eq_some_iff_mem distinct, lookup_sortedMembers, List.lookup_nil, Option.or_none,
    Option.map_eq_some_iff]

/-- Each name stays once. -/
theorem length_sortedMembers (members : List (String × Json)) :
    (sortedMembers [] members).length = (members.map Prod.fst).dedup.length := by
  have distinct : ((sortedMembers [] members).map Prod.fst).Nodup :=
    (pairwise_sortedMembers .nil).imp ne_of_lt
  have same : ((sortedMembers [] members).map Prod.fst).Perm (members.map Prod.fst).dedup := by
    rw [List.perm_ext_iff_of_nodup distinct (List.nodup_dedup _)]
    intro name
    rw [List.mem_dedup, ← exists_lookup_eq_some_iff, lookup_sortedMembers, List.lookup_nil,
      Option.or_none, ← List.mem_reverse, ← List.map_reverse, ← exists_lookup_eq_some_iff]
    simp
  rw [← same.length_eq, List.length_map]

end Json

/-- The JSON of a cell has no objects, so there is nothing to sort in it. -/
theorem Cell.sorted_json (c : Cell) : c.json.sorted = c.json := by
  cases c with
  | real x =>
    rw [Cell.json]
    split <;> rfl
  | blob bytes =>
    rw [Cell.json, Json.sorted, Json.sortedItems_eq_map, List.map_map]
    rfl
  | _ => rfl

/-! ### Entries of a report -/

namespace Report

/-- The entries for the rows of a report, found under the name they stand under. -/
def entries? : Json → Option (List Json)
  | .object members =>
    match members.lookup "rows" with
    | some (.array entries) => some entries
    | _ => none
  | _ => none

/-- The members of a row's entry, sorted by name. -/
def entry (columns : List Column) (row : Row) : List (String × Json) :=
  Json.sortedMembers [] ((columns.zip row).map fun (column, cell) => (column.name, cell.json))

/-- Whether an entry has under each name the cell in the last column of it, and nothing else. -/
structure IsEntry (columns : List Column) (row : Row) (members : List (String × Json)) : Prop where
  /-- Its names stand in order, so none repeats. -/
  sorted : (members.map Prod.fst).Pairwise (· < ·)
  /-- What stands under a name is the cell of the last column that has it. -/
  last : ∀ name value, (name, value) ∈ members ↔ ∃ before column cell after,
    columns.zip row = before ++ (column, cell) :: after ∧ column.name = name ∧
      cell.json = value ∧ name ∉ after.map fun p => p.1.name
  /-- It has one value for each name. -/
  count : members.length = (columns.map Column.name).dedup.length

/-- Whether an entry has a value for every column, and under its name the cell in it.  It speaks of
positions, so that two columns of one name are two. -/
structure KeepsCells (columns : List Column) (row : Row) (members : List (String × Json)) :
    Prop where
  count : members.length = columns.length
  cells : ∀ (position : Nat) (column : Column) (cell : Cell), columns[position]? = some column →
    row[position]? = some cell → (column.name, cell.json) ∈ members

variable {columns : List Column} {row : Row} {members : List (String × Json)}

/-- Each column of the table has a cell in a row of its width. -/
theorem map_name_zip (width : row.length = columns.length) :
    (columns.zip row).map (fun p => p.1.name) = columns.map Column.name := by
  have fronts := congrArg (List.map Column.name) (List.map_fst_zip (Nat.le_of_eq width.symm))
  rwa [List.map_map] at fronts

/-- What the report has for a row is its entry. -/
theorem isEntry_entry (width : row.length = columns.length) :
    IsEntry columns row (entry columns row) where
  sorted := Json.pairwise_sortedMembers .nil
  -- A member's value is the last one of its name in the row: the cells behind it have other
  -- names.
  last name value := by
    rw [entry, Json.mem_sortedMembers_iff]
    simp only [Json.lookup_reverse_eq_some_iff, List.map_eq_append_iff, List.map_eq_cons_iff]
    constructor
    · rintro ⟨_, ⟨_, _, ⟨before, _, whole, rfl, ⟨column, cell⟩, after, rfl, same, rfl⟩, apart⟩,
        rfl⟩
      obtain ⟨rfl, rfl⟩ := Prod.mk.inj same
      rw [List.map_map] at apart
      exact ⟨before, column, cell, after, whole, rfl, (Cell.sorted_json cell).symm, apart⟩
    · rintro ⟨before, column, cell, after, whole, rfl, rfl, apart⟩
      refine ⟨cell.json, ⟨_, _, ⟨before, _, whole, rfl, _, after, rfl, rfl, rfl⟩, ?_⟩,
        Cell.sorted_json cell⟩
      rwa [List.map_map]
  -- Names that repeat have one member in all.
  count := by
    rw [entry, Json.length_sortedMembers, List.map_map, ← map_name_zip width]
    rfl

/-- **An entry has all cells if and only if no name repeats.**  It has one member for each name, and
as many columns are to have theirs. -/
theorem IsEntry.keepsCells_iff (h : IsEntry columns row members)
    (width : row.length = columns.length) :
    KeepsCells columns row members ↔ (columns.map Column.name).Nodup := by
  constructor
  -- If every cell has a member, there are as many names as columns.
  · intro keeps
    have whole : (columns.map Column.name).dedup = columns.map Column.name := by
      refine (List.dedup_sublist _).eq_of_length ?_
      rw [← h.count, keeps.count, List.length_map]
    exact whole ▸ List.nodup_dedup _
  · intro distinct
    refine ⟨by rw [h.count, distinct.dedup, List.length_map], fun position column cell here there =>
      (h.last ..).2 ?_⟩
    -- Conversely, where names differ, each column is the last of its name.
    have inside : (column, cell) ∈ columns.zip row :=
      List.mem_of_getElem? (List.getElem?_zip_eq_some.2 ⟨here, there⟩)
    obtain ⟨before, after, whole⟩ := List.append_of_mem inside
    rw [← map_name_zip width, whole, List.map_append, List.map_cons, List.nodup_append,
      List.nodup_cons] at distinct
    exact ⟨before, column, cell, after, whole, rfl, rfl, distinct.2.1.1⟩

/-- The entries of a report stand in the order of the rows. -/
theorem entries?_sorted_tableObject (t : Table) : entries? (tableObject t).sorted =
    some (t.rows.map fun row => .object (entry t.columns row)) := by
  rw [tableObject, Json.sorted, entries?, Json.lookup_sortedMembers]
  simp [Json.lookup_cons_eq_ite, Json.sorted, Json.sortedItems_eq_map, rowObject, entry]

/-- Reading the text of a report keeps its entries, each read by itself. -/
theorem entries?_reread {j : Json} {entries : List Json} (h : entries? j = some entries) :
    entries? j.reread = some (entries.map Json.reread) := by
  cases j with
  | object members =>
    rw [entries?] at h
    rw [Json.reread, Json.rereadMembers_eq_map, entries?, Json.lookup_map]
    split at h
    · next found =>
      rw [found, ← Option.some.inj h, Option.map_some, Json.reread, Json.rereadItems_eq_map]
    · cases h
  | _ => cases h

/-- **The last column of a name has the value.**  The JSON report of a table has an entry for each
row, and its text is read as a report with the same entries, up to what numbers are read as.  An
entry has one value for each name, the cell in the last column of it.  So all entries have all
cells of their rows if and only if there is no row or no two columns have the same name. -/
theorem entries_keepsCells_iff {t : Table} (rectangular : t.IsRectangular) :
    ∃ entries : List (List (String × Json)),
      entries? (tableObject t).sorted = some (entries.map Json.object) ∧
      (Json.read? (ofTable t .json)).bind entries? =
        some (entries.map fun members => .object (Json.rereadMembers members)) ∧
      List.Forall₂ (IsEntry t.columns) t.rows entries ∧
      (List.Forall₂ (KeepsCells t.columns) t.rows entries ↔
        t.rows = [] ∨ (t.columns.map Column.name).Nodup) := by
  have document := entries?_sorted_tableObject t
  refine ⟨t.rows.map (entry t.columns), by rw [List.map_map]; exact document, ?_, ?_, ?_⟩
  · rw [ofTable, Json.read?_printPretty, Option.bind_some, entries?_reread document, List.map_map,
      List.map_map]
    simp [Json.reread, Function.comp_def]
  · rw [List.forall₂_map_right_iff, List.forall₂_same]
    exact fun row inside => isEntry_entry (rectangular row inside)
  · rw [List.forall₂_map_right_iff, List.forall₂_same]
    have each (row) (inside : row ∈ t.rows) :=
      (isEntry_entry (rectangular row inside)).keepsCells_iff (rectangular row inside)
    constructor
    -- The condition on the names is about the columns, so a single row is enough to have it.
    · intro keeps
      by_cases empty : t.rows = []
      · exact .inl empty
      · obtain ⟨row, inside⟩ := List.exists_mem_of_ne_nil _ empty
        exact .inr ((each row inside).1 (keeps row inside))
    · rintro (empty | distinct) row inside
      · rw [empty] at inside
        cases inside
      · exact (each row inside).2 distinct

/-- `entries_keepsCells_iff` at a table of numbers and names, built from its rows. -/
theorem entries_keepsCells_iff_names :
    ∃ t, Table.ofRows [.plain "id" .numeric, .plain "name" .string]
        [[.integer 1, .text "O'Brien, Pat"], [.integer 2, .null]] = .ok t ∧ t.IsRectangular ∧
      ∃ entries : List (List (String × Json)),
        (Json.read? (ofTable t .json)).bind entries? =
          some (entries.map fun members => .object (Json.rereadMembers members)) ∧
        List.Forall₂ (KeepsCells t.columns) t.rows entries := by
  have built : Table.ofRows [.plain "id" .numeric, .plain "name" .string]
      [[.integer 1, .text "O'Brien, Pat"], [.integer 2, .null]] =
        .ok ⟨none, [.plain "id" .numeric, .plain "name" .string],
          [[.integer 1, .text "O'Brien, Pat"], [.integer 2, .null]], none, none⟩ := rfl
  have rectangular := Table.isRectangular_of_ofRows built
  obtain ⟨entries, -, text, -, keeps⟩ := entries_keepsCells_iff rectangular
  exact ⟨_, built, rectangular, entries, text, keeps.2 (.inr (by decide))⟩

/-- Of two columns with the same name the first is lost. -/
theorem exists_cell_lost :
    ∃ t, Table.ofRows [.plain "id" .numeric, .plain "id" .numeric]
        [[.integer 1, .integer 2]] = .ok t ∧
      entries? (tableObject t).sorted = some [.object [("id", .integer 2)]] ∧
      ¬ KeepsCells t.columns [.integer 1, .integer 2] [("id", .integer 2)] := by
  have built : Table.ofRows [.plain "id" .numeric, .plain "id" .numeric]
      [[.integer 1, .integer 2]] = .ok ⟨none, [.plain "id" .numeric, .plain "id" .numeric],
        [[.integer 1, .integer 2]], none, none⟩ := rfl
  refine ⟨_, built, ?_, fun keeps => absurd keeps.count (by decide)⟩
  rw [entries?_sorted_tableObject]
  simp [entry, Json.sortedMembers, Json.insertMember, Column.plain, Cell.json, Json.sorted]

end Report
end PagedQuery
