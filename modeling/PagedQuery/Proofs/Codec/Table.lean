/-
# Tables on their way

What arrives of a table has its columns, its texts and its page, and its rows cell by cell.  A
document does not say what kind of cell a value was, so not every cell comes back.  One that is
`null`, an integer, a text, a truth value or a blob arrives as itself.  A timestamp arrives as the
text it is written as.  A finite real arrives as itself where the document is handed on as a
value, and where it is handed on as a text it is the number that the text is read as; any other
real arrives as `null`.

So a table comes back if and only if all of its cells do (`comes_back_iff`).  Those with
timestamps never do, and some reals do not from a text (`not_comes_back`).
-/

import PagedQuery.Proofs.Codec.Record

namespace PagedQuery

open Decimal
open Json (Carries IsTransport)

variable {way : Json → Json}

namespace Cell

/-- What a cell arrives as, given the values that finite reals arrive as. -/
def arrive? (real : Binary64 → Json) : Cell → Option Cell
  | .real x => if x.isFinite then ofJson? (real x) else some null
  | .timestamp t => some (.text (String.ofList t.isoText))
  | c => some c

/-- Whether a cell arrives as itself.  A timestamp never does, since a document has no form of its
own for it. -/
def IsKept (real : Binary64 → Json) : Cell → Prop
  | .real x => x.isFinite = true ∧ ofJson? (real x) = some (.real x)
  | .timestamp _ => False
  | _ => True

/-- A cell arrives as itself exactly if its kind can be told from its value. -/
theorem arrive?_eq_some_self_iff (real : Binary64 → Json) (c : Cell) :
    c.arrive? real = some c ↔ c.IsKept real := by
  cases c with
  | real x =>
    rw [arrive?, IsKept]
    split <;> simp_all
  | timestamp t => simp [arrive?, IsKept]
  | _ => simp [arrive?, IsKept]

/-- A cell is read from what arrives of it. -/
theorem ofJson?_transport (transport : IsTransport way) (c : Cell) :
    ofJson? (way c.json) = c.arrive? fun x => way (.real x) := by
  cases c with
  | null => rw [json, transport.null]; rfl
  | integer i =>
    have lower := i.minValue_le_toInt
    have upper := i.toInt_le
    -- A transport keeps integers that fit 64 bits, signed or not; a cell's integer always does.
    have small : Int64.maxValue.toInt < UInt64.size := by decide
    rw [json, transport.integer lower (by omega), ofJson?, if_pos ⟨lower, upper⟩,
      Int64.ofInt_toInt]
    rfl
  | real x =>
    rw [json, arrive?]
    split
    · rfl
    · rw [transport.null]
      rfl
  | text s => rw [json, transport.text]; rfl
  | boolean b => rw [json, transport.boolean]; rfl
  | timestamp t => rw [json, transport.text]; rfl
  | blob bytes =>
    have read := (Carries.byte transport).list transport bytes
    simp only [transport.array, Json.list?] at read
    rw [json, transport.array, ofJson?, read]
    rfl

end Cell

namespace TableDocument

/-- The document with other rows. -/
def withRows (d : TableDocument) (rows : List Row) : TableDocument :=
  { d with table := { d.table with rows } }

/-- What a document arrives as, given the values that finite reals arrive as. -/
def arrive? (real : Binary64 → Json) (d : TableDocument) : Option TableDocument :=
  (d.table.rows.mapM (List.mapM (Cell.arrive? real))).map d.withRows

/-- A document arrives as itself exactly if each of its cells does: everything around the cells is
kept anyway. -/
theorem arrive?_eq_some_self_iff (real : Binary64 → Json) (d : TableDocument) :
    d.arrive? real = some d ↔ ∀ row ∈ d.table.rows, ∀ c ∈ row, c.IsKept real := by
  have rows : d.arrive? real = some d ↔
      d.table.rows.mapM (List.mapM (Cell.arrive? real)) = some d.table.rows := by
    rw [arrive?, Option.map_eq_some_iff]
    constructor
    · rintro ⟨rows, arrived, same⟩
      rw [arrived, ← congrArg (fun d => d.table.rows) same]
      rfl
    · exact fun arrived => ⟨_, arrived, rfl⟩
  simp only [rows, Json.mapM_eq_some_self_iff, Cell.arrive?_eq_some_self_iff]

/-- The member a page is written as. -/
def pageMember : Option PageInfo → List (String × Json)
  | some page => [("pageInfo", page.json)]
  | none => []

/-- A table without a page is written without the member, which no other name can be mistaken
for. -/
theorem lookup_pageMember (page : Option PageInfo) (name : String) :
    (pageMember page).lookup name = if name = "pageInfo" then page.map PageInfo.json else none := by
  cases page with
  | none => simp [pageMember]
  | some page =>
    by_cases same : name = "pageInfo"
    · simp [pageMember, same]
    · simp [pageMember, same, List.lookup_cons, beq_eq_false_iff_ne.2 same]

/-- The members a document is written with.  What the document does not have is left out. -/
def members (d : TableDocument) : List (String × Json) :=
  ("id", .text d.id) :: Json.optionalMember "name" d.table.name ++
    [("columns", .array (d.table.columns.map Column.json)),
     ("rows", .array (d.table.rows.map fun row => .array (row.map Cell.json)))] ++
    Json.optionalMember "script" d.table.script ++ pageMember d.table.pageInfo

/-- The members of a table have different names, those that may be missing included; so the order in
which they arrive does not matter. -/
theorem distinct_members (d : TableDocument) : (d.members.map Prod.fst).Nodup := by
  have page : ((pageMember d.table.pageInfo).map Prod.fst).Sublist ["pageInfo"] := by
    cases d.table.pageInfo with
    | none => exact List.nil_sublist _
    | some page => exact .refl _
  refine List.Nodup.sublist ?_
    (show ["id", "name", "columns", "rows", "script", "pageInfo"].Nodup by decide)
  simp only [members, List.map_append, List.map_cons]
  exact ((((Json.optionalMember_sublist "name" _).cons_cons "id").append
    (.refl ["columns", "rows"])).append (Json.optionalMember_sublist "script" _)).append page

/-- A document is read from what arrives of it, its cells one by one. -/
theorem ofJson?_transport (transport : IsTransport way) (d : TableDocument) :
    ofJson? (way d.json) = d.arrive? fun x => way (.real x) := by
  have text := Carries.text transport
  have label := text.optional rfl
  have page := (PageInfo.carries transport).optional rfl
  have columns := (Column.carries transport).list transport
  have rows : (Json.Slot.given (way (.array (d.table.rows.map fun row =>
      Json.array (row.map Cell.json))))).required (Json.list? (Json.list? Cell.ofJson?)) =
      d.table.rows.mapM (List.mapM (Cell.arrive? fun x => way (.real x))) := by
    rw [Json.Slot.required, transport.list?_array]
    simp only [transport.list?_array, Cell.ofJson?_transport transport]
  rw [show d.json = .object d.members from rfl, ofJson?,
    transport.slots?_object _ d.distinct_members, arrive?]
  simp [members, List.lookup_append, Json.lookup_optionalMember, lookup_pageMember,
    List.lookup_cons, text.required, label, columns.required, rows, page, -Option.elim_map]
  rw [Option.map_eq_bind]
  rfl

/-- **A document comes back if and only if its cells do.**  What arrives of it is read as
the document whose cells arrived one by one; this is the document itself exactly when it
has no timestamp, no real that is not finite and, where it arrives as a text, no real whose
text is read as another one. -/
theorem comes_back_iff (d : TableDocument) :
    (∀ arrived ∈ d.json.valueArrivals,
      arrived.bind ofJson? = d.arrive? .real ∧
      (arrived.bind ofJson? = some d ↔ ∀ row ∈ d.table.rows, ∀ c ∈ row, c.IsKept .real)) ∧
    ∀ arrived ∈ d.json.textArrivals,
      arrived.bind ofJson? = d.arrive? Json.rereadReal ∧
      (arrived.bind ofJson? = some d ↔
        ∀ row ∈ d.table.rows, ∀ c ∈ row, c.IsKept Json.rereadReal) := by
  constructor <;> intro arrived inside
  · obtain ⟨way, transport, reals, rfl⟩ := Json.exists_transport_of_mem_valueArrivals inside
    rw [Option.bind_some, ofJson?_transport transport, funext reals]
    exact ⟨rfl, d.arrive?_eq_some_self_iff _⟩
  · obtain ⟨way, transport, reals, rfl⟩ := Json.exists_transport_of_mem_textArrivals inside
    rw [Option.bind_some, ofJson?_transport transport, funext reals]
    exact ⟨rfl, d.arrive?_eq_some_self_iff _⟩

/-- The number `0.5`. -/
def half : Binary64 :=
  .finite false ⟨1 <<< 52, 1021, by decide⟩

/-- A document with a cell of every other kind comes back from wherever it was. -/
theorem comes_back_iff_timeless :
    let d : TableDocument := ⟨"1", some "t", [.plain "a" .string],
      [[.null, .integer (-7), .real half, .text "x", .boolean true, .blob [0, 255]]], none,
      some .first⟩
    ∀ arrived ∈ d.json.arrivals, arrived.bind ofJson? = some d := by
  intro d arrived inside
  have finite : half.isFinite = true := rfl
  have from_value : Cell.ofJson? (Json.real half) = some (.real half) := rfl
  have from_text : Cell.ofJson? (Json.rereadReal half) = some (.real half) := by decide +kernel
  obtain ⟨value, text⟩ := d.comes_back_iff
  rcases List.mem_append.1 inside with inside | inside
  · refine (value arrived inside).2.2 ?_
    simp [d, Cell.IsKept, finite, from_value]
  · refine (text arrived inside).2.2 ?_
    simp [d, Cell.IsKept, finite, from_text]

/-- Whether all reals of a document are finite.  The others are written as `null`, and nothing is
left to be read. -/
def IsFinite (d : TableDocument) : Prop :=
  ∀ row ∈ d.table.rows, ∀ c ∈ row, ∀ x, c = .real x → x.isFinite = true

/-- A table of one column and one cell. -/
def single (valueType : ValueType) (c : Cell) : TableDocument :=
  ⟨"1", none, [.plain "value" valueType], [[c]], none, none⟩

/-- A table of one cell is finite if its cell is. -/
theorem isFinite_single (valueType : ValueType) {c : Cell}
    (finite : ∀ x, c = .real x → x.isFinite = true) : (single valueType c).IsFinite := by
  intro row inside cell there
  obtain rfl := List.mem_singleton.1 inside
  obtain rfl := List.mem_singleton.1 there
  exact finite

/-- Half past eight on the last day of January 2024. -/
def sampleTime : Timestamp :=
  ⟨2024, 1, 31, 8, 30, 0, 0, by decide⟩

/-- The number whose shortest text is `1.0000000000000007`. -/
def sampleReal : Binary64 :=
  .finite false ⟨4503599627370499, 1022, by decide⟩

/-- A timestamp does not come back whatever way it takes, and there is a finite real that
does not come back from its text. -/
theorem not_comes_back :
    let timed := single .date (.timestamp sampleTime)
    let measured := single .numeric (.real sampleReal)
    (timed.table.IsRectangular ∧ timed.IsFinite ∧
      ∀ arrived ∈ timed.json.arrivals, arrived.bind ofJson? ≠ some timed) ∧
    measured.table.IsRectangular ∧ measured.IsFinite ∧
      (Json.read? (Json.print measured.json)).bind ofJson? ≠ some measured := by
  intro timed measured
  refine ⟨⟨by decide, isFinite_single _ nofun, fun arrived inside same => ?_⟩, by decide,
    isFinite_single _ ?_, fun same => ?_⟩
  -- A timestamp arrives as a text, whatever the transport is.
  · obtain ⟨way, transport, rfl⟩ := Json.exists_transport_of_mem_arrivals inside
    rw [Option.bind_some, ofJson?_transport transport, arrive?_eq_some_self_iff] at same
    exact same _ List.mem_cons_self _ List.mem_cons_self
  · rintro _ ⟨⟩
    rfl
  -- The reader rounds more than once on its way to this real and ends at a neighbour.
  · rw [Json.read?_print, Option.bind_some, ofJson?_transport Json.isTransport_reread,
      arrive?_eq_some_self_iff] at same
    have kept := (same _ List.mem_cons_self _ List.mem_cons_self).2
    have changed : Cell.ofJson? (Json.rereadReal sampleReal) ≠ some (.real sampleReal) := by
      decide +kernel
    exact changed kept

end TableDocument

end PagedQuery
