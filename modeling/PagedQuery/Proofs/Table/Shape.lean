/-
# The shape of tables

A table is rectangular if every row has a cell for every column and no more.  Tables come about in
several ways, and only one of them does not look at the widths of rows.  Loose rows, and the rows
of a cursor, go through `Table.ofRows`, which refuses a row of another width.  A table that is
aggregated locally is the aggregator's, and one that comes of another table has its rows and as
many columns.  A document alone is taken as it is.

So a table that is not rectangular has the rows of a document that is not
(`Obtainable.isRectangular_or_decoded`), and there are such documents
(`exists_obtainable_ragged`).  The induction is over the ways a table is obtained.  An aggregator
can do what it likes, so its answer must be obtainable itself: it may hand on what it was given,
or read a document of its own.
-/

import PagedQuery.Codec.Table
import PagedQuery.Proofs.Table.Provenance

namespace PagedQuery

variable {σ : Type}

namespace Table

/-- Whether two tables have the same rows and equally many columns.  It is all that being
rectangular depends on. -/
def SameShape (t u : Table) : Prop :=
  t.rows = u.rows ∧ t.columns.length = u.columns.length

namespace SameShape

variable {t u v : Table}

/-- A table has its own shape. -/
theorem refl (t : Table) : t.SameShape t :=
  ⟨rfl, rfl⟩

/-- What has the shape of a table of a shape has that shape. -/
theorem trans (h : t.SameShape u) (h' : u.SameShape v) : t.SameShape v :=
  ⟨h.1.trans h'.1, h.2.trans h'.2⟩

/-- Being rectangular is a matter of shape. -/
theorem isRectangular (h : t.SameShape u) (rectangular : u.IsRectangular) : t.IsRectangular := by
  intro row inside
  rw [h.1] at inside
  rw [h.2]
  exact rectangular row inside

end SameShape

/-- Declared types change no row and drop no column. -/
theorem withDeclaredTypes_sameShape (t : Table) (declared : String → Option ValueType) :
    (t.withDeclaredTypes declared).SameShape t :=
  ⟨rfl, List.length_map ..⟩

end Table

/-- What is read from a cursor is rectangular, since its rows are checked. -/
theorem Cursor.isRectangular_of_materialize {c : Cursor σ} {cap : Nat} {s s' : σ} {t : Table}
    (h : c.materialize cap s = (.ok t, s')) : t.IsRectangular := by
  obtain ⟨rows, _, -, built⟩ := Action.bind_eq_ok_iff.1 h
  exact Table.isRectangular_of_ofRows (Action.ofExcept_eq_ok_iff.1 built).1

/-- So is every table that was read. -/
theorem Table.WasRead.isRectangular {t : Table} (h : t.WasRead σ) : t.IsRectangular := by
  obtain ⟨_, _, _, _, read⟩ := h
  exact Cursor.isRectangular_of_materialize read

namespace Adapter

variable {a : Adapter σ} {session session' : Session σ} {t : Table}

/-- SQL that was not rendered is answered with a rectangular table. -/
theorem isRectangular_of_executeSql {sql : String}
    (h : a.executeSql sql session = (.ok t, session')) : t.IsRectangular := by
  obtain ⟨read, wasRead, rfl⟩ := exists_wasRead_of_executeSql h
  exact Table.SameShape.isRectangular (u := read) ⟨rfl, rfl⟩ wasRead.isRectangular

/-- A request on the source is answered with a rectangular table. -/
theorem isRectangular_of_execute_onSource {script : QueryScript} {request : Request}
    (onSource : request.localAggregate = false) {after : Request × Session σ}
    (h : a.execute script (request, session) = (.ok t, after)) : t.IsRectangular := by
  obtain ⟨read, page, sql, wasRead, rfl⟩ := exists_wasRead_of_execute_onSource onSource h
  exact Table.SameShape.isRectangular (u := read) ⟨rfl, rfl⟩ wasRead.isRectangular

/-- A request that is aggregated locally hands the aggregator a rectangular table, and is
answered with what it gives for this. -/
theorem exists_handed_of_execute_locally {script : QueryScript} {request : Request}
    (locally : request.localAggregate = true) {after : Request × Session σ}
    (h : a.execute script (request, session) = (.ok t, after)) :
    ∃ aggregate handed world world', a.aggregator = some aggregate ∧
      Table.IsRectangular handed ∧ aggregate none request [handed] world = (.ok t, world') := by
  obtain ⟨-, aggregate, sql, fetched, mid, present, -, ran, gave, -⟩ :=
    (execute_locally_eq_ok_iff locally).1 h
  refine ⟨aggregate, _, mid.world, after.2.world, present, ?_, gave⟩
  exact (Table.withDeclaredTypes_sameShape fetched _).isRectangular
    (wasRead_of_runQuery ran).isRectangular

end Adapter

namespace Table

/-- The tables that can be obtained where documents of some texts are read.  An aggregator
is no part of the library: all that is asked of it is that what it gives for rectangular tables
can be obtained. -/
inductive Obtainable (texts : String → Prop) : Table → Prop
  /-- Loose rows that were not refused. -/
  | built {columns : List Column} {rows : List Row} {t : Table}
    (gave : ofRows columns rows = .ok t) : Obtainable texts t
  /-- The rows of a cursor. -/
  | materialized {σ : Type} {c : Cursor σ} {cap : Nat} {s s' : σ} {t : Table}
    (gave : c.materialize cap s = (.ok t, s')) : Obtainable texts t
  /-- The answer to a request, on the source or from an aggregator. -/
  | executed {σ : Type} {a : Adapter σ} {script : QueryScript} {request : Request}
    {session : Session σ} {after : Request × Session σ} {t : Table}
    (aggregates : ∀ aggregate, a.aggregator = some aggregate → ∀ name request tables s t s',
      (∀ handed ∈ tables, Table.IsRectangular handed) →
        aggregate name request tables s = (.ok t, s') → Obtainable texts t)
    (gave : a.execute script (request, session) = (.ok t, after)) : Obtainable texts t
  /-- The answer to SQL that was not rendered. -/
  | queried {σ : Type} {a : Adapter σ} {sql : String} {session session' : Session σ} {t : Table}
    (gave : a.executeSql sql session = (.ok t, session')) : Obtainable texts t
  /-- The table of a document. -/
  | decoded {text : String} {d : TableDocument} (given : texts text)
    (read : (Json.read? text).bind TableDocument.ofJson? = some d) : Obtainable texts d.table
  /-- A table with another name. -/
  | named {t : Table} (h : Obtainable texts t) (name : String) : Obtainable texts (t.withName name)
  /-- A table with another SQL. -/
  | scripted {t : Table} (h : Obtainable texts t) (script : String) :
    Obtainable texts (t.withScript script)
  /-- A table with another page. -/
  | paged {t : Table} (h : Obtainable texts t) (page : PageInfo) :
    Obtainable texts (t.withPageInfo page)
  /-- A table with other types of columns. -/
  | typed {t : Table} (h : Obtainable texts t) (declared : String → Option ValueType) :
    Obtainable texts (t.withDeclaredTypes declared)

/-- Whether a table has the shape of a document that is not rectangular and has one of some texts.
It may have been given another name, SQL, page or types since. -/
def IsDecodedRagged (texts : String → Prop) (t : Table) : Prop :=
  ∃ text d, texts text ∧ (Json.read? text).bind TableDocument.ofJson? = some d ∧
    ¬ d.table.IsRectangular ∧ t.SameShape d.table

variable {texts : String → Prop} {t u : Table}

/-- Neither can be lost while the shape is kept. -/
theorem SameShape.keeps (same : t.SameShape u) (h : u.IsRectangular ∨ u.IsDecodedRagged texts) :
    t.IsRectangular ∨ t.IsDecodedRagged texts := by
  rcases h with rectangular | ⟨text, d, given, read, ragged, shape⟩
  · exact .inl (same.isRectangular rectangular)
  · exact .inr ⟨text, d, given, read, ragged, same.trans shape⟩

/-- **Only documents bring in tables that are not rectangular.**  However a table was obtained
and whatever was set in it since, it is rectangular, or it has the rows and the number of
columns of a document that is not rectangular itself. -/
theorem Obtainable.isRectangular_or_decoded (h : Obtainable texts t) :
    t.IsRectangular ∨ t.IsDecodedRagged texts := by
  induction h with
  | built gave => exact .inl (isRectangular_of_ofRows gave)
  | materialized gave => exact .inl (Cursor.isRectangular_of_materialize gave)
  -- On the source the rows came from a cursor.  An aggregator was handed such a table, so what it
  -- gave can be obtained and the induction goes on with it.
  | @executed σ a script request session after t aggregates gave ih =>
    cases locally : request.localAggregate with
    | false => exact .inl (Adapter.isRectangular_of_execute_onSource locally gave)
    | true =>
      obtain ⟨aggregate, handed, world, world', present, rectangular, answer⟩ :=
        Adapter.exists_handed_of_execute_locally locally gave
      refine ih aggregate present none request [handed] world t world' (fun other inside => ?_)
        answer
      obtain rfl := List.mem_singleton.1 inside
      exact rectangular
  | queried gave => exact .inl (Adapter.isRectangular_of_executeSql gave)
  | @decoded text d given read =>
    by_cases rectangular : d.table.IsRectangular
    · exact .inl rectangular
    · exact .inr ⟨text, d, given, read, rectangular, .refl _⟩
  -- What is set in a table is neither a row nor a column, so its shape stays.
  | named _ name ih => exact SameShape.keeps ⟨rfl, rfl⟩ ih
  | scripted _ script ih => exact SameShape.keeps ⟨rfl, rfl⟩ ih
  | paged _ page ih => exact SameShape.keeps ⟨rfl, rfl⟩ ih
  | typed _ declared ih => exact (withDeclaredTypes_sameShape _ declared).keeps ih

/-- A table that is built, named and given other types, where no document is read. -/
theorem isRectangular_or_decoded_built :
    let table : Table := ⟨none, [.plain "id" .numeric], [[.integer 7]], none, none⟩
    let changed := (table.withName "t").withDeclaredTypes fun _ => some .string
    Obtainable (fun _ => False) changed ∧ changed.IsRectangular := by
  intro table changed
  have built : ofRows table.columns table.rows = .ok table := rfl
  have obtained : Obtainable (fun _ => False) changed :=
    .typed (.named (.built built) "t") fun _ => some .string
  refine ⟨obtained, obtained.isRectangular_or_decoded.resolve_right ?_⟩
  rintro ⟨text, d, given, -⟩
  exact given

/-- A document with a row of two cells and no column. -/
def raggedText : String :=
  "\x7b\"id\":\"1\",\"columns\":[],\"rows\":[[1,2]]\x7d"

/-- There are documents that are not rectangular, and so are the tables read from them. -/
theorem exists_obtainable_ragged :
    ∃ t, Obtainable (· = raggedText) t ∧ ¬ t.IsRectangular := by
  have read : (Json.read? raggedText).bind TableDocument.ofJson? =
      some ⟨"1", none, [], [[.integer 1, .integer 2]], none, none⟩ := by decide +kernel
  exact ⟨_, .decoded rfl read, by decide⟩

end Table

end PagedQuery
