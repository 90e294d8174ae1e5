/-
# The types of columns

A result column has one of five types; the other three are for variables of scripts only
(`ValueType.isResult`).  The type of a column is that of its native type name, for a table from a
source as well as for a catalog table.  Only the table handed to an aggregator is different: a
type that is declared for a column's name takes the place of the one that was read.

Native names of types only stand for types of result columns (`isResult_ofNative`), so the rule
can only be broken by a declaration.  A declared type is taken as it is, and it may be any
(`exists_handsOver_keyword`).  What is shown of tables from a source is shown once, of all tables
that were read from a cursor (`Table.WasRead.hasResultTypes`).
-/

import PagedQuery.Proofs.Adapter.Handover
import PagedQuery.Proofs.Table.Provenance

namespace PagedQuery

variable {σ : Type}

/-- A native name stands for a type of result columns, whatever it wraps. -/
theorem NativeType.isResult_valueType (native : List Char) :
    (valueType native).isResult = true := by
  have entries : ∀ entry ∈ listed, entry.1.isResult = true := by decide
  fun_induction valueType native with
  | case1 native t found =>
    obtain ⟨entry, listed, rfl⟩ := Option.map_eq_some_iff.1 found
    exact entries entry (List.mem_of_find?_eq_some listed)
  | case2 native _ inner _ ih => exact ih
  | case3 native _ _ => rfl

/-- A native name stands for a type of result columns. -/
theorem ValueType.isResult_ofNative (native : String) : (ofNative native).isResult = true :=
  NativeType.isResult_valueType native.toList

namespace Table

/-- Whether all columns have types of result columns. -/
def HasResultTypes (t : Table) : Prop :=
  ∀ c ∈ t.columns, c.valueType.isResult = true

/-- The columns of a table that was read have types of result columns. -/
theorem WasRead.hasResultTypes {t : Table} (h : t.WasRead σ) : t.HasResultTypes := by
  obtain ⟨cursor, _, _, _, read⟩ := h
  obtain ⟨-, -, built⟩ := Cursor.materialize_eq_ok_iff.1 read
  intro c inside
  rw [built] at inside
  obtain ⟨m, -, rfl⟩ := List.mem_map.1 inside
  exact ValueType.isResult_ofNative m.typeName

/-- A column has the type that is declared for its name, or the one it had. -/
theorem valueType_of_mem_withDeclaredTypes {t : Table} {declared : String → Option ValueType}
    {c : Column} (inside : c ∈ (t.withDeclaredTypes declared).columns) :
    (∀ valueType, declared c.name = some valueType → c.valueType = valueType) ∧
      (declared c.name = none → c ∈ t.columns) := by
  obtain ⟨before, there, rfl⟩ := List.mem_map.1 inside
  cases given : declared before.name with
  | none => simpa [given] using there
  | some valueType => simp [given]

end Table

/-- A catalog column has such a type, be it a key or not. -/
theorem ColumnMeta.isResult_columnWithKey (keys : List ImportedKey) (m : ColumnMeta) :
    (m.columnWithKey keys).valueType.isResult = true := by
  rw [columnWithKey]
  split <;> exact ValueType.isResult_ofNative m.typeName

namespace Adapter

/-- The columns of a catalog table have types of result columns. -/
theorem isResult_of_listColumns {a : Adapter σ} {catalog table : String}
    {session after : Session σ} {columns : List Column}
    (h : a.listColumns catalog table session = (.ok columns, after)) :
    ∀ c ∈ columns, c.valueType.isResult = true := by
  obtain ⟨run, -⟩ := Session.onWorld_eq_ok_iff.1 h
  obtain ⟨connection, _, _, -, used, -⟩ := Source.withConnection_eq_ok_iff.1 run
  obtain ⟨keys, _, -, rest⟩ := Action.bind_eq_ok_iff.1 used
  obtain ⟨metas, _, -, gave⟩ := Action.bind_eq_ok_iff.1 rest
  obtain rfl := Except.ok.inj (Prod.mk.inj gave).1
  intro c inside
  obtain ⟨m, -, rfl⟩ := List.mem_map.1 inside
  exact m.isResult_columnWithKey keys

/-- **Only a declared type can be none of a result column.**  Whatever the script, the request
and the source, the columns of a table that is read on the source or with SQL that was not
rendered, and the columns of a catalog table, have types of result columns.  So have the
columns that an aggregator is handed, except for those whose names the script declares a
type for: they have this type, whatever it is. -/
theorem column_types (a : Adapter σ) (session : Session σ) :
    (∀ script request table after, request.localAggregate = false →
      a.execute script (request, session) = (.ok table, after) → table.HasResultTypes) ∧
    (∀ sql table after, a.executeSql sql session = (.ok table, after) → table.HasResultTypes) ∧
    (∀ catalog name columns after, a.listColumns catalog name session = (.ok columns, after) →
      ∀ c ∈ columns, c.valueType.isResult = true) ∧
    ∀ script request table called, request.localAggregate = true →
      a.HandsOver script request session table called → ∀ c ∈ table.columns,
        (script.declaredType? c.name = none → c.valueType.isResult = true) ∧
        ∀ declared, script.declaredType? c.name = some declared → c.valueType = declared := by
  refine ⟨?source, ?sql, fun _ _ _ _ => isResult_of_listColumns, ?aggregator⟩
  case source =>
    intro script request table after onSource gave
    obtain ⟨read, page, sql, wasRead, rfl⟩ := exists_wasRead_of_execute_onSource onSource gave
    exact wasRead.hasResultTypes
  case sql =>
    intro sql table after gave
    obtain ⟨read, wasRead, rfl⟩ := exists_wasRead_of_executeSql gave
    exact wasRead.hasResultTypes
  -- The handed table was read like all others; what came after that is the declarations, which
  -- take only the columns they name.
  case aggregator =>
    intro script request table called locally handsOver c inside
    obtain ⟨sql, read, -, ran, rfl⟩ := handed_eq_ok_iff.1 ((handsOver_iff locally).1 handsOver)
    obtain ⟨taken, kept⟩ := Table.valueType_of_mem_withDeclaredTypes inside
    exact ⟨fun none => (wasRead_of_runQuery ran).hasResultTypes c (kept none), taken⟩

/-- An adapter over seven numbered rows, in whose catalog every table has their columns. -/
def catalogued : Adapter Rehearsal.Stage :=
  let metadata := { Rehearsal.PreparedMetadata.empty with
    columns := fun _ _ => .ok (Rehearsal.PreparedRows.counted 7 false).columns }
  { counting none 7 with
    source := { Rehearsal.Script.counted 7 false with metadata }.source }

/-- Each of the four answers, with columns: a request on the source, SQL that was not rendered,
a catalog table, and an aggregator for a script that declares one of its two columns. -/
theorem column_types_counted :
    let script := (QueryScript.ofText "SELECT 1").declareType "id" .boolean
    let session := Session.start Rehearsal.Stage.empty
    (∃ table after,
      catalogued.execute script (.ofPage .first, session) = (.ok table, after) ∧
      table.columns.length = 2 ∧ table.HasResultTypes) ∧
    (∃ table after, catalogued.executeSql "SELECT 1" session = (.ok table, after) ∧
      table.columns.length = 2 ∧ table.HasResultTypes) ∧
    (∃ columns after, catalogued.listColumns "main" "numbers" session = (.ok columns, after) ∧
      columns.length = 2 ∧ ∀ c ∈ columns, c.valueType.isResult = true) ∧
    ∃ table called, catalogued.HandsOver script localRequest session table called ∧
      (∃ id ∈ table.columns, id.name = "id" ∧ id.valueType = .boolean) ∧
      ∃ name ∈ table.columns, name.name = "name" ∧ name.valueType.isResult = true := by
  intro script session
  obtain ⟨source, sql, catalog, aggregator⟩ := column_types catalogued session
  -- The tables are looked at for their columns alone, to keep what is computed small.
  have twoColumns {S : Type} {x : Action S Table} {s : S}
      (h : (x s).1.toOption.map (fun table => table.columns.length) = some 2) :
      ∃ table after, x s = (.ok table, after) ∧ table.columns.length = 2 :=
    Action.exists_ok_of_toOption_map h
  refine ⟨?source, ?sql, ?catalog, ?aggregator⟩
  case source =>
    obtain ⟨table, after, gave, two⟩ := twoColumns (x := catalogued.execute script)
      (s := (.ofPage .first, session)) (by decide +kernel)
    exact ⟨table, after, gave, two, source script _ table after rfl gave⟩
  case sql =>
    obtain ⟨table, after, gave, two⟩ := twoColumns (x := catalogued.executeSql "SELECT 1")
      (s := session) (by decide +kernel)
    exact ⟨table, after, gave, two, sql _ table after gave⟩
  case catalog =>
    have listed : ((catalogued.listColumns "main" "numbers" session).1.toOption.map
        List.length) = some 2 := by decide +kernel
    obtain ⟨columns, after, gave, two⟩ := Action.exists_ok_of_toOption_map listed
    exact ⟨columns, after, gave, two, catalog _ _ columns after gave⟩
  case aggregator =>
    have read : ((catalogued.handed script localRequest session).1.toOption.map
        fun table => table.columns.map Column.name) = some ["id", "name"] := by decide +kernel
    obtain ⟨table, called, gave, names⟩ := Action.exists_ok_of_toOption_map read
    have handsOver := handsOver_of_handed rfl gave
    have types := aggregator script localRequest table called rfl handsOver
    have named (name : String) (known : name ∈ ["id", "name"]) :
        ∃ c ∈ table.columns, c.name = name := by
      rw [← names] at known
      exact List.mem_map.1 known
    obtain ⟨id, isId, idName⟩ := named "id" (by decide)
    obtain ⟨name, isName, nameName⟩ := named "name" (by decide)
    have declared : script.declaredType? id.name = some .boolean := by
      rw [idName]
      decide +kernel
    have undeclared : script.declaredType? name.name = none := by
      rw [nameName]
      decide +kernel
    exact ⟨table, called, handsOver, ⟨id, isId, idName, (types id isId).2 _ declared⟩,
      name, isName, nameName, (types name isName).1 undeclared⟩

/-- A script that declares its column to be a keyword has the aggregator handed a column that
is none of a result. -/
theorem exists_handsOver_keyword :
    let script := (QueryScript.ofText "SELECT 1").declareType "id" .keyword
    (counting none 1).config.validate = .ok () ∧
    ∃ table called,
      (counting none 1).HandsOver script localRequest (.start .empty) table called ∧
      ∃ c ∈ table.columns, c = .plain "id" .keyword ∧ c.valueType.isResult = false := by
  intro script
  refine ⟨ok_of_toOption (by decide +kernel), ?_⟩
  have read : (((counting none 1).handed script localRequest (.start .empty)).1.toOption.map
      Table.columns) = some [.plain "id" .keyword, .plain "name" .string] := by decide +kernel
  obtain ⟨table, called, gave, columns⟩ := Action.exists_ok_of_toOption_map read
  refine ⟨table, called, handsOver_of_handed rfl gave, .plain "id" .keyword, ?_, rfl, rfl⟩
  rw [columns]
  exact List.mem_cons_self

end Adapter
end PagedQuery
