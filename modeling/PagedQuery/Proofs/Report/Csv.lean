/-
# Comma-separated values can be read back

A reader of comma-separated values takes one character after another.  It stands in one of three
places of a field, and what a character means depends on the place:

| place | `"` | `,` or line feed | carriage return | any other |
| --- | --- | --- | --- | --- |
| `bare` | opens the field's quotes, at its start only | ends the field | refused | belongs to the field |
| `quoted` | may close the quotes | belongs to the field | belongs to the field | belongs to the field |
| `closed` | is one quote of the field, the quotes are still open | ends the field | refused | refused |

A line feed ends the record as well, and every record ends with one.  The reader accepts the texts
that are records one after another (`Csv.IsRecords`), and each of them has its records only
(`Csv.read_eq_some_iff`).  Reports in this form are such texts, whatever their fields hold: only a
field that is quoted can have a character in it that means something to the reader
(`Report.read_csv`).
-/

import PagedQuery.Report.Basic
import Mathlib.Data.List.Basic
import Mathlib.Data.List.Induction

namespace PagedQuery
namespace Report
namespace Csv

/-- Where in a field a reader stands. -/
inductive Place
  /-- Outside quotes, at the start of a field or behind characters of it. -/
  | bare
  /-- Inside quotes. -/
  | quoted
  /-- Behind a quote that may close the field or be the first half of a doubled one. -/
  | closed
deriving DecidableEq

/-- What a reader has read.  All of it is kept, so that the records are there when the text ends. -/
structure Reader where
  /-- Where it stands in the field it is in. -/
  place : Place
  /-- The characters of the field it is in. -/
  field : List Char
  /-- The fields of the record before this one. -/
  fields : List String
  /-- The records before this one. -/
  records : List (List String)
deriving DecidableEq

namespace Reader

/-- A reader in front of a record.  It is where a text may end. -/
def after (records : List (List String)) : Reader :=
  ⟨.bare, [], [], records⟩

/-- The fields of the record up to the one it is in. -/
def record (r : Reader) : List String :=
  r.fields ++ [.ofList r.field]

/-- The reader behind the comma that ends its field. -/
def endField (r : Reader) : Reader :=
  ⟨.bare, [], r.record, r.records⟩

/-- The reader behind the line feed that ends its record. -/
def endRecord (r : Reader) : Reader :=
  after (r.records ++ [r.record])

/-- The reader behind a character of its field. -/
def take (r : Reader) (c : Char) : Reader :=
  { r with field := r.field ++ [c] }

/-- Reads one character.  A character that may not stand where it does ends the reading without a
result. -/
def step (r : Reader) (c : Char) : Option Reader :=
  match r.place with
  | .bare =>
    if c = '"' then if r.field = [] then some { r with place := .quoted } else none
    else if c = ',' then some r.endField
    else if c = '\n' then some r.endRecord
    else if c = '\r' then none
    else some (r.take c)
  | .quoted => if c = '"' then some { r with place := .closed } else some (r.take c)
  | .closed =>
    if c = '"' then some { r.take '"' with place := .quoted }
    else if c = ',' then some r.endField
    else if c = '\n' then some r.endRecord
    else none

end Reader

/-- Reads records, each of which ends with a line feed.  A text that ends within a record is
refused. -/
def read (cs : List Char) : Option (List (List String)) :=
  (cs.foldlM Reader.step (.after [])).bind fun r =>
    if r = .after r.records then some r.records else none

/-- Whether a character means nothing to a reader outside quotes. -/
def IsBare (c : Char) : Prop :=
  c ≠ '"' ∧ c ≠ ',' ∧ c ≠ '\n' ∧ c ≠ '\r'

/-- Characters with their quotes doubled. -/
def doubled (cs : List Char) : List Char :=
  cs.flatMap fun c => if c = '"' then ['"', '"'] else [c]

/-- Whether characters are the text of a field.  A field may be in quotes without need, so one field
can have two texts. -/
inductive IsField : List Char → String → Prop
  | bare {cs : List Char} (outside : ∀ c ∈ cs, IsBare c) : IsField cs (.ofList cs)
  | quoted (cs : List Char) : IsField ('"' :: (doubled cs ++ ['"'])) (.ofList cs)

/-- Whether characters are the texts of fields, each with a comma behind it. -/
inductive AreFields : List Char → List String → Prop
  | nil : AreFields [] []
  | snoc {cs text : List Char} {fields : List String} {field : String}
    (before : AreFields cs fields) (last : IsField text field) :
    AreFields (cs ++ (text ++ [','])) (fields ++ [field])

/-- Whether characters are the text of a record: fields with commas between them and a line
feed behind them. -/
inductive IsRecord : List Char → List String → Prop
  | mk {cs text : List Char} {fields : List String} {field : String}
    (before : AreFields cs fields) (last : IsField text field) :
    IsRecord (cs ++ (text ++ ['\n'])) (fields ++ [field])

/-- Whether characters are the texts of records, one after another.  Records are put behind one
another, as the reader meets them. -/
inductive IsRecords : List Char → List (List String) → Prop
  | nil : IsRecords [] []
  | snoc {cs text : List Char} {records : List (List String)} {record : List String}
    (before : IsRecords cs records) (last : IsRecord text record) :
    IsRecords (cs ++ text) (records ++ [record])

/-- Whether characters bring a reader from the start of a field to a place behind characters of
the field. -/
inductive IsBegun : Place → List Char → List Char → Prop
  | bare {cs : List Char} (outside : ∀ c ∈ cs, IsBare c) : IsBegun .bare cs cs
  | quoted (cs : List Char) : IsBegun .quoted ('"' :: doubled cs) cs
  | closed (cs : List Char) : IsBegun .closed ('"' :: (doubled cs ++ ['"'])) cs

/-- A field can end wherever a reader does not stand in its quotes. -/
theorem isField_iff {text : List Char} {field : String} :
    IsField text field ↔
      ∃ place, IsBegun place text field.toList ∧ place ≠ .quoted := by
  constructor
  · rintro (outside | cs)
    · exact ⟨.bare, by rw [String.toList_ofList]; exact .bare outside, by decide⟩
    · exact ⟨.closed, by rw [String.toList_ofList]; exact .closed cs, by decide⟩
  · rintro ⟨place, begun, unquoted⟩
    rw [← String.ofList_toList (s := field)]
    cases begun with
    | bare outside => exact .bare outside
    | quoted => exact absurd rfl unquoted
    | closed => exact .quoted _

/-- No characters are the texts of no fields. -/
theorem AreFields.eq_nil {cs : List Char} (h : AreFields cs []) : cs = [] := by
  generalize same : ([] : List String) = fields at h
  cases h with
  | nil => rfl
  | snoc => simp at same

namespace Reader

variable {r r' : Reader} {cs text : List Char}

/-- A reader takes the characters outside quotes. -/
theorem foldlM_bare (outside : ∀ c ∈ cs, IsBare c) (field : List Char) (fields : List String)
    (records : List (List String)) :
    cs.foldlM step ⟨.bare, field, fields, records⟩ =
      some ⟨.bare, field ++ cs, fields, records⟩ := by
  induction cs generalizing field with
  | nil => rw [List.append_nil]; rfl
  | cons c cs ih =>
    rw [List.forall_mem_cons] at outside
    obtain ⟨quote, comma, feed, ret⟩ := outside.1
    have taken : step ⟨.bare, field, fields, records⟩ c =
        some ⟨.bare, field ++ [c], fields, records⟩ := by
      simp only [step, if_neg quote, if_neg comma, if_neg feed, if_neg ret, take]
    rw [List.foldlM_cons, taken, Option.bind_eq_bind, Option.bind_some, ih outside.2]
    rw [List.append_assoc, List.singleton_append]

/-- A reader takes the characters in quotes, and one quote for two. -/
theorem foldlM_doubled (cs field : List Char) (fields : List String)
    (records : List (List String)) :
    (doubled cs).foldlM step ⟨.quoted, field, fields, records⟩ =
      some ⟨.quoted, field ++ cs, fields, records⟩ := by
  induction cs generalizing field with
  | nil => rw [List.append_nil]; rfl
  | cons c cs ih =>
    have taken : (if c = '"' then ['"', '"'] else [c]).foldlM step
        ⟨.quoted, field, fields, records⟩ = some ⟨.quoted, field ++ [c], fields, records⟩ := by
      by_cases quote : c = '"'
      · rw [if_pos quote, quote]; rfl
      · rw [if_neg quote]; simp [step, quote, take]
    rw [doubled, List.flatMap_cons, List.foldlM_append, taken, Option.bind_eq_bind,
      Option.bind_some]
    exact (ih (field ++ [c])).trans (by rw [List.append_assoc, List.singleton_append])

/-- The text of a field so far brings a reader to its place. -/
theorem foldlM_of_isBegun {place : Place} (begun : IsBegun place text cs) (fields : List String)
    (records : List (List String)) :
    text.foldlM step ⟨.bare, [], fields, records⟩ = some ⟨place, cs, fields, records⟩ := by
  have opened : step ⟨.bare, [], fields, records⟩ '"' = some ⟨.quoted, [], fields, records⟩ := rfl
  cases begun with
  | bare outside => exact foldlM_bare outside [] fields records
  | quoted => rw [List.foldlM_cons, opened]; exact foldlM_doubled cs [] fields records
  | closed =>
    rw [List.foldlM_cons, opened, Option.bind_eq_bind, Option.bind_some, List.foldlM_append,
      foldlM_doubled]
    rfl

/-- Outside quotes a comma ends the field and a line feed the record. -/
theorem step_of_place_ne_quoted (unquoted : r.place ≠ .quoted) :
    r.step ',' = some r.endField ∧ r.step '\n' = some r.endRecord := by
  obtain ⟨place, field, fields, records⟩ := r
  cases place with
  | bare => exact ⟨rfl, rfl⟩
  | quoted => exact absurd rfl unquoted
  | closed => exact ⟨rfl, rfl⟩

variable {fields record : List String} {field : String} {records : List (List String)}

/-- A field is read up to what ends it. -/
theorem foldlM_of_isField (isField : IsField text field) (fields : List String)
    (records : List (List String)) :
    (text ++ [',']).foldlM step ⟨.bare, [], fields, records⟩ =
        some ⟨.bare, [], fields ++ [field], records⟩ ∧
      (text ++ ['\n']).foldlM step ⟨.bare, [], fields, records⟩ =
        some (after (records ++ [fields ++ [field]])) := by
  obtain ⟨place, begun, unquoted⟩ := isField_iff.1 isField
  obtain ⟨comma, feed⟩ := step_of_place_ne_quoted
    (r := ⟨place, field.toList, fields, records⟩) unquoted
  constructor <;> rw [List.foldlM_append, foldlM_of_isBegun begun, Option.bind_eq_bind,
    Option.bind_some, List.foldlM_cons]
  · rw [comma, endField, Reader.record, String.ofList_toList]; rfl
  · rw [feed, endRecord, Reader.record, String.ofList_toList]; rfl

/-- From the start of a record fields are read one by one, each up to its comma. -/
theorem foldlM_of_areFields (areFields : AreFields cs fields) (records : List (List String)) :
    cs.foldlM step (after records) = some ⟨.bare, [], fields, records⟩ := by
  induction areFields with
  | nil => rfl
  | snoc before last ih =>
    rw [List.foldlM_append, ih]
    exact (foldlM_of_isField last _ records).1

/-- A record is read up to its line feed. -/
theorem foldlM_of_isRecord (isRecord : IsRecord text record) (records : List (List String)) :
    text.foldlM step (after records) = some (after (records ++ [record])) := by
  obtain ⟨before, last⟩ := isRecord
  rw [List.foldlM_append, foldlM_of_areFields before]
  exact (foldlM_of_isField last _ records).2

/-- Records are read one after another. -/
theorem foldlM_of_isRecords (isRecords : IsRecords cs records) :
    cs.foldlM step (after []) = some (after records) := by
  induction isRecords with
  | nil => rfl
  | snoc before last ih =>
    rw [List.foldlM_append, ih]
    exact foldlM_of_isRecord last _

/-- Whether a reader has read characters: records, fields of another record, and characters of
another field. -/
inductive HasRead (r : Reader) : List Char → Prop
  | mk {whole before text : List Char} (records : IsRecords whole r.records)
    (fields : AreFields before r.fields) (begun : IsBegun r.place text r.field) :
    HasRead r (whole ++ (before ++ text))

/-- Outside quotes the end of the field or of the record is read. -/
theorem HasRead.ended (h : r.HasRead cs) (unquoted : r.place ≠ .quoted) :
    r.endField.HasRead (cs ++ [',']) ∧ r.endRecord.HasRead (cs ++ ['\n']) := by
  obtain @⟨whole, before, text, records, fields, begun⟩ := h
  have last : IsField text (.ofList r.field) :=
    isField_iff.2 ⟨r.place, by rwa [String.toList_ofList], unquoted⟩
  have empty : IsBegun .bare [] [] := .bare fun _ inside => absurd inside List.not_mem_nil
  constructor
  · have read : r.endField.HasRead (whole ++ ((before ++ (text ++ [','])) ++ [])) :=
      .mk records (.snoc fields last) empty
    simpa only [List.append_assoc, List.append_nil] using read
  · have read : r.endRecord.HasRead ((whole ++ (before ++ (text ++ ['\n']))) ++ ([] ++ [])) :=
      .mk (.snoc records (.mk fields last)) .nil empty
    simpa only [List.append_assoc, List.append_nil] using read

/-- A character of the field is read. -/
theorem HasRead.within {c : Char} {place : Place} {field : List Char} (h : r.HasRead cs)
    (next : ∀ {text}, IsBegun r.place text r.field → IsBegun place (text ++ [c]) field) :
    HasRead ⟨place, field, r.fields, r.records⟩ (cs ++ [c]) := by
  obtain @⟨whole, before, text, records, fields, begun⟩ := h
  have read : HasRead ⟨place, field, r.fields, r.records⟩ (whole ++ (before ++ (text ++ [c]))) :=
    .mk records fields (next begun)
  simpa only [List.append_assoc] using read

/-- What is read in quotes belongs to the field, or closes them. -/
theorem HasRead.step_quoted {c : Char} (h : r.HasRead cs) (quoted : r.place = .quoted)
    (next : r.step c = some r') : r'.HasRead (cs ++ [c]) := by
  obtain ⟨place, field, fields, records⟩ := r
  obtain rfl : place = .quoted := quoted
  by_cases quote : c = '"'
  · subst quote
    obtain rfl := Option.some.inj next
    refine h.within fun begun => ?_
    cases begun
    exact .closed field
  · simp only [Reader.step, quote, if_false] at next
    obtain rfl := Option.some.inj next
    refine h.within fun begun => ?_
    cases begun
    have more : doubled (field ++ [c]) = doubled field ++ [c] := by simp [doubled, quote]
    have read := IsBegun.quoted (field ++ [c])
    rwa [more] at read

/-- What is read outside quotes ends the field, opens its quotes, is a quote of it, or means
nothing. -/
theorem HasRead.step_unquoted {c : Char} (h : r.HasRead cs) (unquoted : r.place ≠ .quoted)
    (next : r.step c = some r') : r'.HasRead (cs ++ [c]) := by
  obtain ⟨onComma, onFeed⟩ := step_of_place_ne_quoted unquoted
  -- A comma and a line feed end the field, outside quotes and behind them.
  by_cases comma : c = ','
  · subst comma
    obtain rfl := Option.some.inj (onComma.symm.trans next)
    exact (h.ended unquoted).1
  by_cases feed : c = '\n'
  · subst feed
    obtain rfl := Option.some.inj (onFeed.symm.trans next)
    exact (h.ended unquoted).2
  obtain ⟨place, field, fields, records⟩ := r
  by_cases quote : c = '"'
  · subst quote
    cases place with
    | bare =>
      -- A quote opens a quoted field only where the field is still empty.
      by_cases first : field = []
      · subst first
        obtain rfl := Option.some.inj next
        refine h.within fun begun => ?_
        cases begun
        exact .quoted []
      · simp [Reader.step, first] at next
    | quoted => exact absurd rfl unquoted
    | closed =>
      obtain rfl := Option.some.inj next
      refine h.within fun begun => ?_
      cases begun
      -- Behind what looked like the end of the quotes another quote stands, so both are one quote
      -- of the field.
      have more : doubled (field ++ ['"']) = (doubled field ++ ['"']) ++ ['"'] := by
        simp [doubled]
      have read := IsBegun.quoted (field ++ ['"'])
      rwa [more] at read
  · cases place with
    | bare =>
      -- A bare field has no return; any other character belongs to it.
      by_cases ret : c = '\r'
      · simp [Reader.step, ret] at next
      simp only [Reader.step, quote, comma, feed, ret, if_false] at next
      obtain rfl := Option.some.inj next
      refine h.within fun begun => ?_
      obtain ⟨outside⟩ := begun
      exact .bare (List.forall_mem_append.2
        ⟨outside, List.forall_mem_singleton.2 ⟨quote, comma, feed, ret⟩⟩)
    | quoted => exact absurd rfl unquoted
    | closed => simp [Reader.step, quote, comma, feed] at next

/-- Whatever is read keeps to the form of records. -/
theorem HasRead.step {c : Char} (h : r.HasRead cs) (next : r.step c = some r') :
    r'.HasRead (cs ++ [c]) := by
  by_cases quoted : r.place = .quoted
  · exact h.step_quoted quoted next
  · exact h.step_unquoted quoted next

/-- Neither does a run leave the form of records.  The induction is over the characters that are
still to be read, behind those that were. -/
theorem HasRead.foldlM {ds : List Char} (h : r.HasRead cs)
    (run : ds.foldlM Reader.step r = some r') : r'.HasRead (cs ++ ds) := by
  induction ds generalizing r cs with
  | nil =>
    obtain rfl := Option.some.inj run
    rwa [List.append_nil]
  | cons d ds ih =>
    obtain ⟨mid, next, rest⟩ := Option.bind_eq_some_iff.1 run
    have read := ih (h.step next) rest
    rwa [List.append_assoc, List.singleton_append] at read

/-- In front of a record there are whole records only. -/
theorem HasRead.isRecords (h : (after records).HasRead cs) : IsRecords cs records := by
  obtain @⟨whole, before, text, isRecords, fields, begun⟩ := h
  obtain rfl := fields.eq_nil
  cases begun
  exact (List.append_nil whole).symm ▸ isRecords

end Reader

/-- **A text is read if it is records one after another**, and what is read are they.  So the
grammar has at most one reading of a text, and the reader finds it. -/
theorem read_eq_some_iff {cs : List Char} {records : List (List String)} :
    read cs = some records ↔ IsRecords cs records := by
  constructor
  · intro h
    obtain ⟨r, run, ended⟩ := Option.bind_eq_some_iff.1 h
    split at ended
    · next stop =>
      obtain rfl := Option.some.inj ended
      have start : (Reader.after []).HasRead ([] ++ ([] ++ [])) :=
        .mk .nil .nil (.bare fun _ inside => absurd inside List.not_mem_nil)
      have whole := start.foldlM run
      rw [stop] at whole
      exact whole.isRecords
    · cases ended
  · intro h
    rw [read, Reader.foldlM_of_isRecords h, Option.bind_some]
    exact if_pos rfl

/-- Quotes stand in quotes only, and a line break there belongs to the field. -/
example : read "a,\"b\"\"\n\"\n".toList = some [["a", "b\"\n"]] ∧ read "a\"b\n".toList = none := by
  decide

/-- The characters that put their field in quotes are those that mean something to a reader. -/
theorem needsQuotes_eq_false_iff {c : Char} : needsQuotes c = false ↔ IsBare c := by
  simp only [needsQuotes, Bool.or_eq_false_iff, beq_eq_false_iff_ne, IsBare]
  tauto

/-- The text of a field is one. -/
theorem isField_field (s : String) : IsField (field s.toList) s := by
  have quoted := IsField.quoted s.toList
  have bare (outside : ∀ c ∈ s.toList, IsBare c) := IsField.bare outside
  rw [String.ofList_toList] at quoted
  simp only [String.ofList_toList] at bare
  simp only [field, beq_iff_eq]
  split
  · exact quoted
  · next outside =>
    refine bare fun c inside => needsQuotes_eq_false_iff.1 ?_
    simpa using List.any_eq_false.1 (Bool.eq_false_iff.2 outside) c inside

/-- The fields of a report are fields, each with its comma. -/
theorem areFields_flatMap (fields : List String) :
    AreFields (fields.flatMap fun s => field s.toList ++ [',']) fields := by
  induction fields using List.reverseRecOn with
  | nil => exact .nil
  | append_singleton fields s ih =>
    rw [List.flatMap_append, List.flatMap_singleton]
    exact .snoc ih (isField_field s)

/-- Separators between parts are separators behind all but the last. -/
theorem intercalate_concat (separator last : List Char) (parts : List (List Char)) :
    separator.intercalate (parts ++ [last]) = parts.flatMap (· ++ separator) ++ last := by
  induction parts with
  | nil => rw [List.nil_append, List.intercalate_singleton]; rfl
  | cons part parts ih =>
    have more : parts ++ [last] ≠ [] := by simp
    rw [List.cons_append, List.intercalate_cons_of_ne_nil more, ih, List.flatMap_cons]
    simp only [List.append_assoc]

/-- The text of a record is one, unless it has no field: a line without a field is read as one
with an empty field. -/
theorem isRecord_record {fields : List String} (some_field : fields ≠ []) :
    IsRecord (record fields) fields := by
  obtain ⟨fields, last, rfl⟩ := List.eq_nil_or_concat' fields |>.resolve_left some_field
  rw [record, List.map_append, List.map_singleton, intercalate_concat, List.flatMap_map,
    List.append_assoc]
  exact .mk (areFields_flatMap fields) (isField_field last)

/-- The text of records that have fields is theirs. -/
theorem isRecords_text {records : List (List String)}
    (some_field : ∀ record ∈ records, record ≠ []) : IsRecords (text records) records := by
  induction records using List.reverseRecOn with
  | nil => exact .nil
  | append_singleton records last ih =>
    rw [List.forall_mem_append, List.forall_mem_singleton] at some_field
    rw [text, List.flatMap_append, List.flatMap_singleton]
    exact .snoc (ih some_field.1) (isRecord_record some_field.2)

/-- **The text of records that have fields is read as these.** A record without fields is written as
an empty line, and read as one empty field. -/
theorem read_text {records : List (List String)} (some_field : ∀ record ∈ records, record ≠ []) :
    read (text records) = some records :=
  read_eq_some_iff.2 (isRecords_text some_field)

end Csv

/-- **What a report of comma-separated values is read as.**  A table with a column is read as its
column names and then its rows, each with a field for every column, which is the text of the cell,
or empty for a null.  A list of columns is read as its heading and then the name, the type and the
reference of each. -/
theorem read_csv {columns : List Column} {rows : List Row} {t : Table}
    (built : Table.ofRows columns rows = .ok t) (some_column : columns ≠ []) :
    (Csv.read (ofTable t .csv).toList =
        some (columns.map Column.name ::
          rows.map fun row => row.map fun cell => if cell.isNull then "" else cell.display) ∧
      ∀ row ∈ rows, row.length = columns.length) ∧
    ∀ described : List Column, Csv.read (ofColumns described .csv).toList =
      some (["name", "type", "references"] ::
        described.map fun c => [c.name, c.valueType.name, c.reference]) := by
  have rectangular := Table.isRectangular_of_ofRows built
  obtain rfl := Table.eq_of_ofRows built
  refine ⟨⟨?_, rectangular⟩, fun described => ?_⟩
  -- A row of no fields would be read as one of a single empty field; a table with a column has
  -- none.
  · have some_field : ∀ record ∈ columns.map Column.name :: rows.map (·.map csvField),
        record ≠ [] := by
      intro record inside
      rcases List.mem_cons.1 inside with rfl | inside
      · simpa using some_column
      obtain ⟨row, member, rfl⟩ := List.mem_map.1 inside
      have width := rectangular row member
      rw [← List.length_pos_iff] at some_column ⊢
      rwa [List.length_map, width]
    rw [ofTable, String.toList_ofList]
    exact Csv.read_text some_field
  · rw [ofColumns, String.toList_ofList]
    refine Csv.read_text fun record inside => ?_
    rcases List.mem_cons.1 inside with rfl | inside
    · simp
    · obtain ⟨c, -, rfl⟩ := List.mem_map.1 inside
      simp [columnFields]

/-- A table with commas, quotes, line breaks and a null. -/
def remarks : Table where
  name := none
  columns := [.plain "id" .numeric, .plain "the \"remark\", if any" .string]
  rows := [[.integer 1, .text "one,\r\ntwo"], [.integer 2, .null]]
  script := none
  pageInfo := none

/-- `read_csv` at such a table. -/
theorem read_csv_remarks :
    Table.ofRows remarks.columns remarks.rows = .ok remarks ∧ remarks.columns ≠ [] ∧
      Csv.read (ofTable remarks .csv).toList =
        some [["id", "the \"remark\", if any"], ["1", "one,\r\ntwo"], ["2", ""]] ∧
      Csv.read (ofColumns remarks.columns .csv).toList =
        some [["name", "type", "references"], ["id", "NUMERIC", ""],
          ["the \"remark\", if any", "STRING", ""]] := by
  have built : Table.ofRows remarks.columns remarks.rows = .ok remarks := rfl
  have some_column : remarks.columns ≠ [] := nofun
  obtain ⟨⟨table, -⟩, columns⟩ := read_csv built some_column
  exact ⟨built, some_column, table.trans (by decide +kernel), columns remarks.columns⟩

end Report
end PagedQuery
