/-
# The keys of catalog columns

A column of a table is listed with the key it refers to: with the last of the imported keys about
its name, or with none if there is no such key.  Names are compared as they are written, letter
case included.

A list of keys counts for nothing else.  Keys about other names, and the order of keys about
different ones, do not matter (`keyOf?_filter`, `keyOf?_of_perm`).  So the list is as good as a
table in which every key is written over the one before it (`lookup_keyTable`).  All of this is
read off one property of the key that is found, that it is in the list and that no key about the
same name stands behind it (`keyOf?_eq_some_iff`).  `Source.listColumns_keyed` says so of what a
source lists.
-/

import Mathlib.Data.List.AList
import Mathlib.Data.List.Forall2
import Mathlib.Data.List.Induction
import PagedQuery.Catalog
import PagedQuery.Proofs.Rehearsal.Answers
import PagedQuery.Proofs.Source.Reading

namespace PagedQuery

/-! ### The last key about a column -/

/-- Whether a key is the last one about a column: no key behind it is about the column too.  It is
said by a place in the list, since two keys may be equal. -/
def IsLastKey (keys : List ImportedKey) (column : String) (key : ImportedKey) : Prop :=
  key.column = column ∧
    ∃ before after, keys = before ++ key :: after ∧ ∀ k ∈ after, k.column ≠ column

/-- The keys by their columns, each written over the one before it.  The library's maps say what a
table of keys should mean. -/
def keyTable (keys : List ImportedKey) : AList fun _ : String => ImportedKey :=
  keys.foldl (fun table key => table.insert key.column key) ∅

section Keys

variable {keys keys' : List ImportedKey} {key : ImportedKey} {column : String}

/-- The key that is found for a name is the last one about it: it splits the list into what comes
before and what comes after, and nothing after it is about the name. -/
theorem keyOf?_eq_some_iff : keyOf? keys column = some key ↔ IsLastKey keys column key := by
  rw [keyOf?, List.find?_eq_some_iff_append, IsLastKey, beq_iff_eq]
  refine and_congr_right fun _ => ?_
  constructor
  · rintro ⟨after, before, split, others⟩
    refine ⟨before.reverse, after.reverse, ?_, fun k inside => ?_⟩
    · simpa using congrArg List.reverse split
    · simpa using others k (List.mem_reverse.1 inside)
  · rintro ⟨before, after, rfl, others⟩
    refine ⟨after.reverse, before.reverse, by simp, fun k inside => ?_⟩
    simpa using others k (List.mem_reverse.1 inside)

/-- No key is found for a name exactly if none is about it. -/
theorem keyOf?_eq_none_iff : keyOf? keys column = none ↔ ∀ k ∈ keys, k.column ≠ column := by
  simp [keyOf?]

/-- One more key counts for its own column alone. -/
theorem keyOf?_concat (keys : List ImportedKey) (key : ImportedKey) (column : String) :
    keyOf? (keys ++ [key]) column =
      if key.column = column then some key else keyOf? keys column := by
  rw [keyOf?, List.reverse_append, List.reverse_singleton, List.singleton_append,
    List.find?_cons]
  by_cases same : key.column = column
  · rw [beq_iff_eq.2 same, if_pos same]
  · rw [beq_false_of_ne same, if_neg same, keyOf?]

/-- **The last key about a column is what is left of the keys written over each other.**  So
searching the list from its end is looking up a table. -/
theorem lookup_keyTable (keys : List ImportedKey) (column : String) :
    (keyTable keys).lookup column = keyOf? keys column := by
  -- The induction takes the last key off, which is the one written over the others.
  induction keys using List.reverseRecOn with
  | nil => rfl
  | append_singleton keys key ih =>
    rw [keyOf?_concat, ← ih, keyTable, List.foldl_concat]
    by_cases same : key.column = column
    · subst same
      rw [AList.lookup_insert, if_pos rfl]
    · rw [AList.lookup_insert_ne (Ne.symm same), if_neg same]
      rfl

/-- Among keys about different columns each is the last one about its own. -/
theorem isLastKey_iff_mem (distinct : (keys.map ImportedKey.column).Nodup) :
    IsLastKey keys column key ↔ key ∈ keys ∧ key.column = column := by
  constructor
  · rintro ⟨about, before, after, rfl, -⟩
    exact ⟨List.mem_append_right _ List.mem_cons_self, about⟩
  · rintro ⟨inside, rfl⟩
    obtain ⟨before, after, rfl⟩ := List.append_of_mem inside
    refine ⟨rfl, before, after, rfl, fun k behind same => ?_⟩
    rw [List.map_append, List.map_cons] at distinct
    have fresh := (List.nodup_cons.1 (List.nodup_append.1 distinct).2.1).1
    exact fresh (same ▸ List.mem_map_of_mem behind)

/-- The order of keys about different columns does not matter. -/
theorem keyOf?_of_perm (perm : keys'.Perm keys) (distinct : (keys.map ImportedKey.column).Nodup)
    (column : String) : keyOf? keys' column = keyOf? keys column := by
  have distinct' : (keys'.map ImportedKey.column).Nodup :=
    (perm.map ImportedKey.column).nodup_iff.2 distinct
  refine Option.ext fun key => ?_
  rw [keyOf?_eq_some_iff, keyOf?_eq_some_iff, isLastKey_iff_mem distinct',
    isLastKey_iff_mem distinct, perm.mem_iff]

/-- Keys about other columns do not matter. -/
theorem keyOf?_filter {isKept : ImportedKey → Bool}
    (kept : ∀ k ∈ keys, k.column = column → isKept k = true) :
    keyOf? (keys.filter isKept) column = keyOf? keys column := by
  induction keys using List.reverseRecOn with
  | nil => rfl
  | append_singleton keys key ih =>
    specialize ih fun k inside => kept k (List.mem_append_left _ inside)
    rw [List.filter_append, keyOf?_concat, ← ih]
    by_cases keep : isKept key = true
    · rw [List.filter_cons_of_pos keep, List.filter_nil, keyOf?_concat]
    · have other : key.column ≠ column := fun about =>
        keep (kept key (List.mem_append_right _ List.mem_cons_self) about)
      rw [List.filter_cons_of_neg keep, List.filter_nil, List.append_nil, if_neg other]

end Keys

/-! ### Listed columns -/

/-- Whether a column is what a driver's column is listed as: with its name, its logical type
and the last key about its name, if there is one. -/
structure ColumnMeta.IsListedAs (keys : List ImportedKey) (m : ColumnMeta) (c : Column) :
    Prop where
  name : c.name = m.name
  valueType : c.valueType = .ofNative m.typeName
  key : (∃ key, IsLastKey keys m.name key ∧ c.keyCatalog = key.keyCatalog ∧
      c.keyTable = key.keyTable ∧ c.keyColumn = key.keyColumn) ∨
    (∀ key ∈ keys, key.column ≠ m.name) ∧
      c.keyCatalog = none ∧ c.keyTable = none ∧ c.keyColumn = none

/-- A column is listed with its name, the type of its native type name, and its last key. -/
theorem ColumnMeta.isListedAs_columnWithKey (keys : List ImportedKey) (m : ColumnMeta) :
    m.IsListedAs keys (m.columnWithKey keys) := by
  rw [columnWithKey]
  cases found : keyOf? keys m.name with
  | some key => exact ⟨rfl, rfl, .inl ⟨key, keyOf?_eq_some_iff.1 found, rfl, rfl, rfl⟩⟩
  | none => exact ⟨rfl, rfl, .inr ⟨keyOf?_eq_none_iff.1 found, rfl, rfl, rfl⟩⟩

/-- The keys about the columns of a table.  Letter case counts, as it does where keys are looked
up. -/
def keysAbout (metas : List ColumnMeta) (keys : List ImportedKey) : List ImportedKey :=
  keys.filter fun key => (metas.map ColumnMeta.name).contains key.column

/-- Keys about columns that the table does not have are found for none of its columns, so leaving
them out changes nothing. -/
theorem keyOf?_keysAbout {metas : List ColumnMeta} {m : ColumnMeta} (inside : m ∈ metas)
    (keys : List ImportedKey) : keyOf? (keysAbout metas keys) m.name = keyOf? keys m.name :=
  keyOf?_filter fun key _ about => by
    rw [List.contains_iff_mem, about]
    exact List.mem_map_of_mem inside

/-- Keys that are the same for each column list the columns alike. -/
theorem ColumnMeta.map_columnWithKey_congr {metas : List ColumnMeta} {keys keys' : List ImportedKey}
    (same : ∀ m ∈ metas, keyOf? keys' m.name = keyOf? keys m.name) :
    metas.map (columnWithKey keys') = metas.map (columnWithKey keys) :=
  List.map_congr_left fun m inside => by rw [columnWithKey, columnWithKey, same m inside]

namespace Source

variable {σ : Type} {source : Source σ} {catalog table : String}
variable {s s' : σ} {keys : List ImportedKey} {metas : List ColumnMeta}

/-- Whether a source tells the keys and the columns of a table, on the way from one state to
another.  The keys are asked for first, on the connection that the columns are asked on. -/
def Describes (source : Source σ) (catalog table : String) (s : σ) (keys : List ImportedKey)
    (metas : List ColumnMeta) (s' : σ) : Prop :=
  ∃ c opened asked told, source.connect s = (.ok c, opened) ∧
    c.importedKeys catalog table opened = (.ok keys, asked) ∧
    c.columns catalog table asked = (.ok metas, told) ∧ s' = c.close told

/-- Columns are listed if and only if the source tells of them. -/
theorem listColumns_eq_ok_iff {columns : List Column} :
    source.listColumns catalog table s = (.ok columns, s') ↔
      ∃ keys metas, source.Describes catalog table s keys metas s' ∧
        columns = metas.map (ColumnMeta.columnWithKey keys) := by
  simp only [listColumns, withConnection_eq_ok_iff, Action.bind_eq_ok_iff, Action.pure_apply,
    Describes]
  constructor
  · rintro ⟨c, opened, told, connected, ⟨keys, asked, keyed, metas, _, given, same⟩, rfl⟩
    obtain ⟨⟨⟩, rfl⟩ := Prod.mk.inj same
    exact ⟨keys, metas, ⟨c, opened, asked, _, connected, keyed, given, rfl⟩, rfl⟩
  · rintro ⟨keys, metas, ⟨c, opened, asked, told, connected, keyed, given, rfl⟩, rfl⟩
    exact ⟨c, opened, told, connected, ⟨keys, asked, keyed, metas, told, given, rfl⟩, rfl⟩

/-- **Every column of a table is listed, in its place and with the last key about it.**  The
keys of another list give the same columns if they are the same keys, each about a column of
its own, in any order, or if they differ in keys about other columns alone. -/
theorem listColumns_keyed (told : source.Describes catalog table s keys metas s') :
    ∃ columns, source.listColumns catalog table s = (.ok columns, s') ∧
      List.Forall₂ (ColumnMeta.IsListedAs keys) metas columns ∧
      ∀ {τ : Type} (other : Source τ) (catalog' table' : String) (t t' : τ)
        (keys' : List ImportedKey), other.Describes catalog' table' t keys' metas t' →
        (keys'.Perm keys ∧ (keys.map ImportedKey.column).Nodup ∨
          keysAbout metas keys' = keysAbout metas keys) →
        other.listColumns catalog' table' t = (.ok columns, t') := by
  refine ⟨metas.map (ColumnMeta.columnWithKey keys),
    listColumns_eq_ok_iff.2 ⟨keys, metas, told, rfl⟩, ?_, ?_⟩
  -- The columns are the listed ones with a key each, so the two lists go side by side.
  · rw [List.forall₂_map_right_iff, List.forall₂_same]
    exact fun m _ => m.isListedAs_columnWithKey keys
  · intro τ other catalog' table' t t' keys' told' alike
    refine listColumns_eq_ok_iff.2 ⟨keys', metas, told', ?_⟩
    refine (ColumnMeta.map_columnWithKey_congr fun m inside => ?_).symm
    -- Either way every listed column has the same last key among both lists.
    rcases alike with ⟨perm, distinct⟩ | alike
    · exact keyOf?_of_perm perm distinct m.name
    · rw [← keyOf?_keysAbout inside keys', alike, keyOf?_keysAbout inside]

end Source

namespace Rehearsal

/-- A source in whose catalogs every table has the same columns and the same keys. -/
def Script.ofTable (metas : List ColumnMeta) (keys : List ImportedKey) : Script :=
  { ofResults [] false with
    metadata := { PreparedMetadata.empty with
      columns := fun _ _ => .ok metas
      importedKeys := fun _ _ => .ok keys } }

/-- A rehearsed source describes the table that it was set up with; so a source that describes a
table exists for every list of columns and of keys. -/
theorem Script.ofTable_describes (metas : List ColumnMeta) (keys : List ImportedKey)
    (catalog table : String) (s : Stage) :
    ∃ s', (ofTable metas keys).source.Describes catalog table s keys metas s' :=
  ⟨_, (ofTable metas keys).connection, _, _, _, rfl, rfl, rfl, rfl⟩

end Rehearsal

/-- A key written over another one, with a key about the same name in capitals between them: a
key about no column changes nothing, and neither does the order of two keys. -/
theorem Source.listColumns_keyed_overwritten :
    let metas : List ColumnMeta := [⟨"id", "INTEGER"⟩, ⟨"dept", "VARCHAR(8)"⟩, ⟨"dept", "DATE"⟩]
    let first : ImportedKey := ⟨"dept", none, some "units", some "id"⟩
    let capital : ImportedKey := ⟨"ID", none, some "labels", some "id"⟩
    let last : ImportedKey := ⟨"dept", some "main", some "departments", some "code"⟩
    let gone : ImportedKey := ⟨"gone", none, some "units", none⟩
    let listing (keys : List ImportedKey) :=
      (Rehearsal.Script.ofTable metas keys).source.listColumns "main" "staff" .empty
    (∃ columns s s',
      columns.map Column.reference = ["", "main.departments.code", "main.departments.code"] ∧
      listing [first, capital, last] = (.ok columns, s) ∧
      listing [first, gone, capital, last] = (.ok columns, s')) ∧
    ∃ columns s s', columns.length = 3 ∧
      listing [first, capital] = (.ok columns, s) ∧ listing [capital, first] = (.ok columns, s') := by
  intro metas first capital last gone listing
  have told (keys : List ImportedKey) :=
    Rehearsal.Script.ofTable_describes metas keys "main" "staff" .empty
  constructor
  -- The key about `gone` is about no column of the table.
  · obtain ⟨s, written⟩ := told [first, capital, last]
    obtain ⟨s', more⟩ := told [first, gone, capital, last]
    obtain ⟨columns, listed, -, others⟩ := listColumns_keyed written
    have known : columns.map Column.reference =
        ["", "main.departments.code", "main.departments.code"] := by
      have run : (listing [first, capital, last]).1.toOption.map (List.map Column.reference) =
          some ["", "main.departments.code", "main.departments.code"] := by decide +kernel
      rw [show listing [first, capital, last] = _ from listed] at run
      exact Option.some.inj run
    exact ⟨columns, s, s', known, listed, others _ _ _ _ _ _ more (.inr (by decide))⟩
  -- The two keys are about different names, letter case counting, so their order is free.
  · obtain ⟨s, one⟩ := told [first, capital]
    obtain ⟨s', other⟩ := told [capital, first]
    obtain ⟨columns, listed, each, others⟩ := listColumns_keyed one
    exact ⟨columns, s, s', each.length_eq.symm, listed,
      others _ _ _ _ _ _ other (.inl ⟨.swap .., by decide⟩)⟩

end PagedQuery
