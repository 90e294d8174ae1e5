/-
# The items of a select list

A select list has three parts, in this order: one item for each selector, one for each group
column that no selector has, as often as it is grouped by, and one for each aggregate.  It is `*`
exactly if all three are empty.

Group columns are only kept apart from the selectors, not from each other: each of them stands in
the list once if and only if none is repeated (`Dialect.selectItems_once_iff`).  Whether two lists
with the columns repeated and not repeated are the same is seen from their lengths, except where
`*` hides a list that is empty; hence the lemmas about items of one character.
-/

import Mathlib.Data.List.Perm.Subperm
import PagedQuery.Proofs.Select.Conditions

namespace PagedQuery

/-! ### Lists without repetitions -/

section Once

variable {α : Type} [BEq α] [LawfulBEq α]

/-- Without its repetitions a list has none. -/
theorem nodup_eraseDups : (l : List α) → l.eraseDups.Nodup
  | [] => .nil
  | a :: l => by
    rw [List.eraseDups_cons, List.nodup_cons]
    exact ⟨by simp, nodup_eraseDups (l.filter fun b => !b == a)⟩
termination_by l => l.length
decreasing_by exact Nat.lt_succ_of_le (List.length_filter_le ..)

/-- A list without repetitions is left as it is. -/
theorem eraseDups_eq_self : {l : List α} → l.Nodup → l.eraseDups = l
  | [], _ => rfl
  | a :: l, once => by
    obtain ⟨fresh, once⟩ := List.nodup_cons.1 once
    have kept : l.filter (fun b => !b == a) = l := by
      refine List.filter_eq_self.2 fun b inside => ?_
      simpa using fun same : b = a => fresh (same ▸ inside)
    rw [List.eraseDups_cons, kept, eraseDups_eq_self once]

/-- A list is as long as the list of its members exactly if no member is repeated. -/
theorem length_eraseDups_eq_iff {l : List α} : l.eraseDups.length = l.length ↔ l.Nodup := by
  constructor
  · intro length
    -- What is part of a list and as long as it is the list itself in another order.
    have sub : l.eraseDups.Subperm l :=
      List.subperm_of_subset (nodup_eraseDups l) fun _ => List.mem_eraseDups.1
    exact (sub.perm_of_length_le (Nat.le_of_eq length.symm)).nodup_iff.1 (nodup_eraseDups l)
  · intro once
    rw [eraseDups_eq_self once]

end Once

/-! ### The parts of the list -/

/-- The group columns that no selector has, in order.  A column that is grouped by twice is in it
twice. -/
def Request.addedColumns (r : Request) : List String :=
  (r.groups.map GroupKey.column).filter fun column =>
    !r.selectors.any fun s => s.column == column

namespace Dialect

/-- The item of a selector that names a column. -/
def selectorText (d : Dialect) (s : Selector) : List Char :=
  match s.label with
  | some name => d.aliased (d.quoteIdentifier s.column.toList) name
  | none => d.quoteIdentifier s.column.toList

/-- The selectors of a request, some columns, and the aggregates of the request. -/
def listing (d : Dialect) (r : Request) (columns : List String) : List (List Char) :=
  r.selectors.map d.selectorText ++ columns.map (fun column => d.quoteIdentifier column.toList) ++
    r.aggregates.map d.aggregateItem

/-- Items, or `*` where there is none.  The `*` is put in alone. -/
def itemsOrAll (items : List (List Char)) : List (List Char) :=
  if items.isEmpty then [['*']] else items

variable {d : Dialect} {r : Request}

/-- A group column is added as often as it is grouped by, or never if a selector has it. -/
theorem count_addedColumns (r : Request) (column : String) : r.addedColumns.count column =
    if column ∈ r.selectors.map Selector.column then 0
    else (r.groups.map GroupKey.column).count column := by
  rw [Request.addedColumns]
  split
  · next selected =>
    obtain ⟨s, inside, rfl⟩ := List.mem_map.1 selected
    refine List.count_eq_zero.2 fun added => ?_
    have unselected := (List.mem_filter.1 added).2
    simp only [Bool.not_eq_true', List.any_eq_false, beq_iff_eq] at unselected
    exact unselected s inside rfl
  · next unselected =>
    refine List.count_filter ?_
    simpa using unselected

/-- Selectors that name columns are items as they stand. -/
theorem selectItems_eq (named : ∀ s ∈ r.selectors, s.column ≠ "*") :
    d.selectItems r = .ok (itemsOrAll (d.listing r r.addedColumns)) := by
  have selected : r.selectors.mapM d.selectorItem = .ok (r.selectors.map d.selectorText) := by
    refine mapM_eq_ok fun s inside => ?_
    rw [selectorItem, if_neg (named s inside), selectorText]
    cases s.label <;> rfl
  have added : (r.groups.filter fun g => !r.selectors.any fun s => s.column == g.column).map
      (fun g => d.quoteIdentifier g.column.toList) =
        r.addedColumns.map fun column => d.quoteIdentifier column.toList := by
    rw [Request.addedColumns, List.filter_map, List.map_map]
    rfl
  simp only [selectItems, selected, added]
  rfl

/-! ### No item is `*` -/

/-- An identifier has its two quotes at least, so it is not `*`. -/
theorem two_le_length_quoteIdentifier (d : Dialect) (identifier : List Char) :
    2 ≤ (d.quoteIdentifier identifier).length := by
  simp [quoteIdentifier]

/-- Neither is what has an alias. -/
theorem two_le_length_aliased (d : Dialect) (expression : List Char) (name : String) :
    2 ≤ (d.aliased expression name).length := by
  have quoted := d.two_le_length_quoteIdentifier name.toList
  rw [aliased, List.length_append, List.length_append]
  omega

/-- Neither is a selector that names a column. -/
theorem two_le_length_selectorText (d : Dialect) (s : Selector) :
    2 ≤ (d.selectorText s).length := by
  unfold selectorText
  split
  · exact d.two_le_length_aliased _ _
  · exact d.two_le_length_quoteIdentifier _

/-- So no item of a listing is `*`. -/
theorem two_le_length_of_mem_listing {columns : List String} {item : List Char}
    (inside : item ∈ d.listing r columns) : 2 ≤ item.length := by
  rw [listing, List.mem_append, List.mem_append, List.mem_map, List.mem_map, List.mem_map]
    at inside
  rcases inside with (⟨s, -, rfl⟩ | ⟨column, -, rfl⟩) | ⟨a, -, rfl⟩
  · exact d.two_le_length_selectorText s
  · exact d.two_le_length_quoteIdentifier _
  · exact d.two_le_length_aliased _ _

/-- Only an empty listing is shown as `*`. -/
theorem itemsOrAll_listing_eq_iff {columns : List String} :
    itemsOrAll (d.listing r columns) = [['*']] ↔ d.listing r columns = [] := by
  rw [itemsOrAll]
  split
  · next empty => exact iff_of_true rfl (List.isEmpty_iff.1 empty)
  · next some =>
    refine iff_of_false (fun all => ?_) fun empty => some (List.isEmpty_iff.2 empty)
    have short : 2 ≤ ['*'].length :=
      two_le_length_of_mem_listing (d := d) (r := r) (by rw [all]; exact List.mem_cons_self)
    exact absurd short (by decide)

/-- A listing that has items is shown as they are. -/
theorem itemsOrAll_eq_self {items : List (List Char)} (some : items ≠ []) :
    itemsOrAll items = items :=
  if_neg fun empty => some (List.isEmpty_iff.1 empty)

/-- Listings that are shown alike have equally many columns between the two other parts. -/
theorem length_eq_of_itemsOrAll_listing {columns columns' : List String}
    (same : itemsOrAll (d.listing r columns) = itemsOrAll (d.listing r columns')) :
    columns.length = columns'.length := by
  have listed : d.listing r columns = d.listing r columns' := by
    by_cases empty : d.listing r columns = []
    · rw [itemsOrAll_listing_eq_iff.2 empty, eq_comm, itemsOrAll_listing_eq_iff] at same
      rw [empty, same]
    · have some : d.listing r columns' ≠ [] := fun empty' => by
        rw [itemsOrAll_listing_eq_iff.2 empty', itemsOrAll_listing_eq_iff] at same
        exact empty same
      rwa [itemsOrAll_eq_self empty, itemsOrAll_eq_self some] at same
  have lengths := congrArg List.length listed
  simp only [listing, List.length_append, List.length_map] at lengths
  omega

/-- The list is `*` exactly for a request that selects, groups by and aggregates nothing. -/
theorem selectItems_eq_all_iff (named : ∀ s ∈ r.selectors, s.column ≠ "*") :
    d.selectItems r = .ok [['*']] ↔ r.selectors = [] ∧ r.groups = [] ∧ r.aggregates = [] := by
  rw [selectItems_eq named, Except.ok.injEq, itemsOrAll_listing_eq_iff, listing,
    List.append_eq_nil_iff, List.append_eq_nil_iff, List.map_eq_nil_iff, List.map_eq_nil_iff,
    List.map_eq_nil_iff, and_assoc]
  refine and_congr_right fun none => and_congr_left' ?_
  simp [Request.addedColumns, none]

/-- A query around a script begins with its select list. -/
theorem exists_clauses_of_select {source sql : List Char} {isPaged : Bool}
    (built : d.select r source isPaged = .ok sql)
    (around : r.hasOperations = true ∨ isPaged = true) :
    ∃ items clauses, d.selectItems r = .ok items ∧
      sql = "SELECT ".toList ++ Text.joinWith ", " items ++ " FROM ".toList ++
        d.derivedTable source ++ clauses := by
  -- With a page there is a clause behind the query, without one nothing.
  have queried : ∃ query behind, d.query r source = .ok query ∧ sql = query ++ behind := by
    cases isPaged with
    | true =>
      rw [select_paged_eq] at built
      obtain ⟨query, asked, rest⟩ := exceptBind_eq_ok_iff.1 built
      obtain ⟨-, -, whole⟩ := exceptBind_eq_ok_iff.1 rest
      exact ⟨query, _, asked, (Except.ok.inj whole).symm⟩
    | false =>
      rw [select_unpaged, if_pos (around.resolve_right Bool.false_ne_true)] at built
      exact ⟨sql, [], built, (List.append_nil sql).symm⟩
  obtain ⟨query, behind, asked, rfl⟩ := queried
  obtain ⟨items, wheres, havings, selected, -, -, rfl⟩ := query_eq_ok_iff.1 asked
  exact ⟨items, _, selected, by simp only [List.append_assoc]; rfl⟩

/-- **Each group column stands in the list once exactly if none is repeated.**  The items of a
request whose selectors name columns are those of the selectors, then the group columns that no
selector has, each as often as it is grouped by, then the aggregates, and `*` only where all
three are empty.  They are the items with every such column at its first place alone if and only
if none of these columns is repeated. -/
theorem selectItems_once_iff (d : Dialect) {r : Request}
    (named : ∀ s ∈ r.selectors, s.column ≠ "*") :
    d.selectItems r = .ok (itemsOrAll (d.listing r r.addedColumns)) ∧
    (∀ column, r.addedColumns.count column =
      if column ∈ r.selectors.map Selector.column then 0
      else (r.groups.map GroupKey.column).count column) ∧
    (d.selectItems r = .ok [['*']] ↔ r.selectors = [] ∧ r.groups = [] ∧ r.aggregates = []) ∧
    (d.selectItems r = .ok (itemsOrAll (d.listing r r.addedColumns.eraseDups)) ↔
      r.addedColumns.Nodup) ∧
    ∀ source isPaged sql, d.select r source isPaged = .ok sql →
      r.hasOperations = true ∨ isPaged = true → ∃ clauses,
        sql = "SELECT ".toList ++ Text.joinWith ", " (itemsOrAll (d.listing r r.addedColumns)) ++
          " FROM ".toList ++ d.derivedTable source ++ clauses := by
  have items := selectItems_eq (d := d) named
  refine ⟨items, count_addedColumns r, selectItems_eq_all_iff named, ?once, ?query⟩
  case once =>
    rw [items, Except.ok.injEq]
    constructor
    -- Equal lists have equal lengths, and dropping repetitions keeps the length only where there
    -- are none.
    · intro same
      exact length_eraseDups_eq_iff.1 (length_eq_of_itemsOrAll_listing same).symm
    · intro once
      rw [eraseDups_eq_self once]
  case query =>
    intro source isPaged sql built around
    obtain ⟨items', clauses, selected, whole⟩ := exists_clauses_of_select built around
    obtain rfl := Except.ok.inj (items.symm.trans selected)
    exact ⟨clauses, whole⟩

/-- Two group columns, one of them selected under another name. -/
theorem selectItems_once_iff_grouped :
    let d := Product.sqlite.dialect
    let r := { Request.ofPage .first with
      selectors := [⟨"city", some "c"⟩], groups := [⟨"city"⟩, ⟨"year"⟩],
      aggregates := [⟨"*", .count, none⟩] }
    (∀ s ∈ r.selectors, s.column ≠ "*") ∧ r.addedColumns = ["year"] ∧
      d.selectItems r = .ok (itemsOrAll (d.listing r r.addedColumns.eraseDups)) := by
  intro d r
  have named : ∀ s ∈ r.selectors, s.column ≠ "*" := by decide
  exact ⟨named, by decide, (selectItems_once_iff d named).2.2.2.1.2 (by decide)⟩

/-- A column that is grouped by twice stands in the select list twice. -/
theorem exists_column_twice :
    let d := Product.sqlite.dialect
    let r := { Request.ofPage .first with groups := [⟨"city"⟩, ⟨"city"⟩] }
    (∀ s ∈ r.selectors, s.column ≠ "*") ∧
      d.selectItems r ≠ .ok (itemsOrAll (d.listing r r.addedColumns.eraseDups)) ∧
      d.render (.ofText "T") r .plain =
        .ok "SELECT \"city\", \"city\" FROM (T) AS V_SRC GROUP BY \"city\", \"city\"" := by
  intro d r
  have named : ∀ s ∈ r.selectors, s.column ≠ "*" := by decide
  refine ⟨named, ?_, ok_of_toOption (by decide +kernel)⟩
  rw [selectItems_eq named, ne_eq, Except.ok.injEq]
  exact fun same => absurd (length_eq_of_itemsOrAll_listing same) (by decide)

end Dialect

end PagedQuery
