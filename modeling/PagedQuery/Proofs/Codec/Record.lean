/-
# Records survive transport

Whatever way the value of a record takes, the record is read from what arrives, with every field
as it was: pages, columns, variables, filters, requests, drivers and dialects.  Two records are
kept up to what their values do not say.  A script keeps its declared types, though not their
order, which is that of a map; and a configuration comes back without its password, which is never
written.

The proof of each record is the list of its fields: what kind each one is, and whether it may be
missing.  The fields are read one by one from the object that arrives
(`IsTransport.slots?_object`), and each of them arrives by the lemma of its own type.  A record
with a new field needs one more line, and no other record is touched.
-/

import PagedQuery.Codec.Config
import PagedQuery.Codec.Query
import PagedQuery.Proofs.Json.Transport

namespace PagedQuery

open Json (Carries IsTransport)

variable {way : Json → Json}

/-- A type travels as its name. -/
theorem ValueType.carries (transport : IsTransport way) : Carries way json ofJson? :=
  .named transport ofName?_name

/-- A page travels with its four fields; the total is `null` where it is not known. -/
theorem PageInfo.carries (transport : IsTransport way) : Carries way json ofJson? := fun p => by
  have word := Carries.word transport
  have boolean := Carries.boolean transport
  have total := word.nullable transport rfl
  rw [json, ofJson?, transport.slots?_object _ (by simp)]
  simp [List.lookup_cons, word.required, boolean.required, total.defaulted]

/-! ### Columns -/

namespace Column

/-- The members a column is written with.  Those of a reference it does not have are left out, so
their number differs from column to column. -/
def members (c : Column) : List (String × Json) :=
  [("name", .text c.name), ("type", c.valueType.json)] ++
    Json.optionalMember "fkCatalog" c.keyCatalog ++ Json.optionalMember "fkTable" c.keyTable ++
    Json.optionalMember "fkColumn" c.keyColumn

/-- The members of a column have different names, whichever of its optional fields are there. -/
theorem distinct_members (c : Column) : (c.members.map Prod.fst).Nodup := by
  refine List.Nodup.sublist ?_
    (show ["name", "type", "fkCatalog", "fkTable", "fkColumn"].Nodup by decide)
  simp only [members, List.map_append]
  exact (((List.Sublist.refl ["name", "type"]).append
    (Json.optionalMember_sublist _ _)).append (Json.optionalMember_sublist _ _)).append
      (Json.optionalMember_sublist _ _)

/-- A column travels with its name and its type, and with as much of its key as it has. -/
theorem carries (transport : IsTransport way) : Carries way json ofJson? := fun c => by
  have text := Carries.text transport
  have valueType := ValueType.carries transport
  have key := text.optional rfl
  rw [show c.json = .object c.members from rfl, ofJson?,
    transport.slots?_object _ c.distinct_members]
  simp [members, List.lookup_append, Json.lookup_optionalMember, List.lookup_cons, text.required,
    valueType.required, key, -Option.elim_map]

end Column

/-! ### Scripts -/

/-- A variable travels with its name, its type and its values in order. -/
theorem ScriptVariable.carries (transport : IsTransport way) : Carries way json ofJson? :=
  fun v => by
    have text := Carries.text transport
    have valueType := ValueType.carries transport
    have values := text.list transport
    rw [json, ofJson?, transport.slots?_object _ (by simp)]
    simp [List.lookup_cons, text.required, valueType.required, values.defaulted]

namespace Schema

/-- Whether a schema is a map: it has each column once.  A schema that is read from a document
always is. -/
def IsMap (s : Schema) : Prop :=
  (s.map Prod.fst).Nodup

instance (s : Schema) : Decidable s.IsMap :=
  inferInstanceAs (Decidable (List.Nodup _))

/-- A column that has no declared type yet is declared behind the others. -/
theorem put_of_fresh {s : Schema} {column : String} (fresh : column ∉ s.map Prod.fst)
    (valueType : ValueType) : s.put column valueType = s ++ [(column, valueType)] := by
  induction s with
  | nil => rfl
  | cons entry s ih =>
    obtain ⟨name, other⟩ := entry
    rw [List.map_cons, List.mem_cons, not_or] at fresh
    rw [put, if_neg (Ne.symm fresh.1), ih fresh.2, List.cons_append]

/-- Members about different columns are put one behind the other. -/
theorem ofMembers?_eq_some {done : Schema} {members : List (String × Json)}
    {types : Json → ValueType}
    (typed : ∀ member ∈ members, ValueType.ofJson? member.2 = some (types member.2))
    (distinct : (done.map Prod.fst ++ members.map Prod.fst).Nodup) :
    ofMembers? done members =
      some (done ++ members.map fun member => (member.1, types member.2)) := by
  induction members generalizing done with
  | nil => rw [ofMembers?, List.map_nil, List.append_nil]
  | cons member members ih =>
    obtain ⟨column, value⟩ := member
    have fresh : column ∉ done.map Prod.fst := fun inside =>
      (List.nodup_append.1 distinct).2.2 column inside column List.mem_cons_self rfl
    have first : ValueType.ofJson? value = some (types value) := typed _ List.mem_cons_self
    rw [ofMembers?, first, Option.bind_eq_bind, Option.bind_some, put_of_fresh fresh,
      ih (fun member inside => typed member (List.mem_cons_of_mem _ inside))
        (by simpa using distinct)]
    simp

/-- A schema arrives as a map. -/
theorem exists_perm_of_transport (transport : IsTransport way) {s : Schema} (map : s.IsMap) :
    ∃ arrived, ofJson? (way s.json) = some arrived ∧ arrived.Perm s := by
  have written : s.json = .object (s.map fun entry => (entry.1, entry.2.json)) := rfl
  have carried : ∀ valueType : ValueType, ValueType.ofJson? (way valueType.json) = some valueType :=
    ValueType.carries transport
  let types (value : Json) : ValueType := (ValueType.ofJson? value).getD .string
  -- A transport may change the order of the members, never their names or what they hold.
  obtain ⟨members, there, same⟩ := transport.object
    (s.map fun entry => (entry.1, entry.2.json)) (by rw [List.map_map]; exact map)
  rw [List.map_map] at same
  have typed : ∀ member ∈ members, ValueType.ofJson? member.2 = some (types member.2) := by
    intro member inside
    obtain ⟨entry, -, rfl⟩ := List.mem_map.1 (same.mem_iff.1 inside)
    simp [types, carried]
  have distinct : (members.map Prod.fst).Nodup := by
    refine (same.map Prod.fst).nodup_iff.2 ?_
    rw [List.map_map]
    exact map
  -- Reading undoes writing member by member, so the permutation is carried over.
  have back := same.map fun member => (member.1, types member.2)
  rw [List.map_map] at back
  refine ⟨members.map fun member => (member.1, types member.2), ?_, back.trans ?_⟩
  · rw [written, there, ofJson?, ofMembers?_eq_some typed (by simpa using distinct),
      List.nil_append]
  · simp [types, carried, Function.comp_def]

end Schema

namespace QueryScript

/-- Whether two scripts are the same, their schemas compared as maps.  A schema is asked for the
types of columns, to which the order of its members does not matter. -/
structure Agrees (s t : QueryScript) : Prop where
  sourceId : s.sourceId = t.sourceId
  script : s.script = t.script
  vars : s.vars = t.vars
  schema : Option.Rel List.Perm s.schema t.schema

/-- A script arrives up to the order of its schema. -/
theorem exists_agrees_of_transport (transport : IsTransport way) {s : QueryScript}
    (map : ∀ schema ∈ s.schema, schema.IsMap) :
    ∃ arrived, ofJson? (way s.json) = some arrived ∧ arrived.Agrees s := by
  have text := Carries.text transport
  have vars := (ScriptVariable.carries transport).list transport
  -- The schema is the one field that may arrive in another order; it is dealt with first, and the
  -- rest of the record is by its slots.
  have schema : ∃ schema, Json.nullable? Schema.ofJson? (way (Json.nullable Schema.json s.schema)) =
      some schema ∧ Option.Rel List.Perm schema s.schema := by
    cases given : s.schema with
    | none => exact ⟨none, by rw [Json.nullable, transport.null, Json.nullable?], .none⟩
    | some schema =>
      obtain ⟨arrived, here, same⟩ := Schema.exists_perm_of_transport transport (map _ given)
      refine ⟨some arrived, ?_, .some same⟩
      rw [Json.nullable, Json.nullable?, here, Option.map_some]
      intro missing
      rw [missing] at here
      cases here
  obtain ⟨arrived, here, same⟩ := schema
  have read : ∀ default, (Json.Slot.given (way (Json.nullable Schema.json s.schema))).defaulted
      default (Json.nullable? Schema.ofJson?) = some arrived := fun _ => here
  refine ⟨{ s with schema := arrived }, ?_, ⟨rfl, rfl, rfl, same⟩⟩
  rw [json, ofJson?, transport.slots?_object _ (by simp)]
  simp [List.lookup_cons, text.required, text.defaulted, vars.defaulted, read]

end QueryScript

/-! ### Requests -/

/-- The value of a filter travels with its type. -/
theorem Operand.carries (transport : IsTransport way) : Carries way json ofJson? := fun v => by
  have text := Carries.text transport
  have valueType := ValueType.carries transport
  rw [json, ofJson?, transport.slots?_object _ (by simp)]
  simp [List.lookup_cons, text.required, valueType.required]

/-- An aggregate function travels as its name. -/
theorem AggregateFunction.carries (transport : IsTransport way) : Carries way json ofJson? :=
  .named transport ofName?_name

/-- A comparison travels as its name. -/
theorem Comparison.carries (transport : IsTransport way) : Carries way json ofJson? :=
  .named transport ofName?_name

/-- A direction travels as its name. -/
theorem SortDirection.carries (transport : IsTransport way) : Carries way json ofJson? :=
  .named transport ofName?_name

/-- A selector travels with its column and its alias, which may be `null`. -/
theorem Selector.carries (transport : IsTransport way) : Carries way json ofJson? := fun s => by
  have text := Carries.text transport
  have label := text.nullable transport rfl
  rw [json, ofJson?, transport.slots?_object _ (by simp)]
  simp [List.lookup_cons, text.required, label.defaulted]

/-- An aggregate travels with its column, its function and its alias, which may be `null`. -/
theorem Aggregate.carries (transport : IsTransport way) : Carries way json ofJson? := fun a => by
  have text := Carries.text transport
  have function := AggregateFunction.carries transport
  have label := text.nullable transport rfl
  rw [json, ofJson?, transport.slots?_object _ (by simp)]
  simp [List.lookup_cons, text.required, function.required, label.defaulted]

/-- A filter travels with its operands in order, and with the function it compares, or `null`. -/
theorem Filter.carries (transport : IsTransport way) : Carries way json ofJson? := fun f => by
  have text := Carries.text transport
  have comparison := Comparison.carries transport
  have values := (Operand.carries transport).list transport
  have aggregate := (AggregateFunction.carries transport).nullable transport rfl
  rw [json, ofJson?, transport.slots?_object _ (by simp)]
  simp [List.lookup_cons, text.required, comparison.required, values.defaulted, aggregate.defaulted]

/-- A group travels as the record of its one field. -/
theorem GroupKey.carries (transport : IsTransport way) : Carries way json ofJson? := fun g => by
  have text := Carries.text transport
  rw [json, ofJson?, transport.slots?_object _ (by simp)]
  simp [List.lookup_cons, text.required]

/-- A sort travels with its column, its direction and the function it is by, or `null`. -/
theorem SortKey.carries (transport : IsTransport way) : Carries way json ofJson? := fun o => by
  have text := Carries.text transport
  have direction := SortDirection.carries transport
  have aggregate := (AggregateFunction.carries transport).nullable transport rfl
  rw [json, ofJson?, transport.slots?_object _ (by simp)]
  simp [List.lookup_cons, text.required, direction.defaulted, aggregate.defaulted]

/-- A request travels with all of its parts.  Each of them is a list or a flag that may be missing,
so a request can arrive from an empty object too. -/
theorem Request.carries (transport : IsTransport way) : Carries way json ofJson? := fun r => by
  have selectors := (Selector.carries transport).list transport
  have aggregates := (Aggregate.carries transport).list transport
  have filters := (Filter.carries transport).list transport
  have groups := (GroupKey.carries transport).list transport
  have orders := (SortKey.carries transport).list transport
  have pageInfo := PageInfo.carries transport
  have boolean := Carries.boolean transport
  rw [json, ofJson?, transport.slots?_object _ (by simp)]
  simp [List.lookup_cons, selectors.defaulted, aggregates.defaulted, filters.defaulted,
    groups.defaulted, orders.defaulted, pageInfo.defaulted, boolean.defaulted]

/-! ### Configurations -/

/-- A driver travels with its identity and its paging, and with the names and quotes it has, or
`null`. -/
theorem DriverInfo.carries (transport : IsTransport way) : Carries way json ofJson? := fun d => by
  have text := Carries.text transport
  have label := text.nullable transport rfl
  have boolean := Carries.boolean transport
  rw [json, ofJson?, transport.slots?_object _ (by simp)]
  simp [List.lookup_cons, text.required, label.defaulted, boolean.defaulted]

/-- A dialect travels with all of its fields, none of which may be missing. -/
theorem Dialect.carries (transport : IsTransport way) : Carries way json ofJson? := fun d => by
  have text := Carries.text transport
  have product := Carries.named transport Product.ofName?_name
  have quote := Carries.char transport
  have casing := Carries.named transport Casing.ofName?_name
  have pagination := Carries.named transport Pagination.ofName?_name
  have timestampStyle := Carries.named transport TimestampStyle.ofName?_name
  have boolean := Carries.boolean transport
  rw [json, ofJson?, transport.slots?_object _ (by simp)]
  simp [List.lookup_cons, text.required, product.required, quote.required, casing.required,
    pagination.required, timestampStyle.required, boolean.required]

/-- The properties without what is never written. -/
def SourceProperties.withoutPassword (p : SourceProperties) : SourceProperties :=
  { p with password := none }

/-- The properties of a source are written without the password and so come back without one. -/
theorem SourceProperties.ofJson?_json (transport : IsTransport way) (p : SourceProperties) :
    ofJson? (way p.json) = some p.withoutPassword := by
  have text := Carries.text transport
  have user := text.nullable transport rfl
  have password : Json.Slot.absent.defaulted none (Json.nullable? Json.text?) = some none := rfl
  rw [json, ofJson?, transport.slots?_object _ (by simp)]
  simp [List.lookup_cons, text.required, user.defaulted, password, withoutPassword]

namespace AdapterConfig

/-- The configuration without what is never written. -/
def withoutPassword (c : AdapterConfig) : AdapterConfig :=
  { c with properties := c.properties.withoutPassword }

/-- A configuration comes back as it was but for the password of its source. -/
theorem ofJson?_json (transport : IsTransport way) (c : AdapterConfig) :
    ofJson? (way c.json) = some c.withoutPassword := by
  have word := Carries.word transport
  have driver := DriverInfo.carries transport
  have rowCap := word.nullable transport rfl
  have properties : ∀ default, (Json.Slot.given (way c.properties.json)).defaulted default
      SourceProperties.ofJson? = some c.properties.withoutPassword :=
    fun _ => SourceProperties.ofJson?_json transport c.properties
  rw [json, ofJson?, transport.slots?_object _ (by simp)]
  simp [List.lookup_cons, driver.required, word.defaulted, rowCap.defaulted, properties,
    withoutPassword]

/-- The password has no part in whether a configuration is accepted. -/
theorem validate_withoutPassword (c : AdapterConfig) : c.withoutPassword.validate = c.validate :=
  rfl

/-- An accepted configuration is read from its text without its password. -/
theorem ofText_print_json {c : AdapterConfig} (accepted : c.validate = .ok ()) :
    ofText (Json.print c.json) = .ok c.withoutPassword := by
  have read := ofJson?_json Json.isTransport_reread c
  rw [ofText, Json.read?_print, Option.bind_some, read]
  simp only [validate_withoutPassword, accepted]
  rfl

end AdapterConfig

/-- **What describes a query survives transport.**  Whatever arrives of the value of a page,
a variable, a script, a filter, a request, a column, a driver or a dialect is read as that
one, the schema of a script as the same map; an accepted configuration is read from its
text without its password. -/
theorem descriptions_survive_transport :
    (∀ p : PageInfo, ∀ arrived ∈ p.json.arrivals, arrived.bind PageInfo.ofJson? = some p) ∧
    (∀ v : ScriptVariable, ∀ arrived ∈ v.json.arrivals,
      arrived.bind ScriptVariable.ofJson? = some v) ∧
    (∀ s : QueryScript, (∀ schema ∈ s.schema, schema.IsMap) → ∀ arrived ∈ s.json.arrivals,
      ∃ t, arrived.bind QueryScript.ofJson? = some t ∧ t.Agrees s) ∧
    (∀ f : Filter, ∀ arrived ∈ f.json.arrivals, arrived.bind Filter.ofJson? = some f) ∧
    (∀ r : Request, ∀ arrived ∈ r.json.arrivals, arrived.bind Request.ofJson? = some r) ∧
    (∀ c : Column, ∀ arrived ∈ c.json.arrivals, arrived.bind Column.ofJson? = some c) ∧
    (∀ d : DriverInfo, ∀ arrived ∈ d.json.arrivals, arrived.bind DriverInfo.ofJson? = some d) ∧
    (∀ d : Dialect, ∀ arrived ∈ d.json.arrivals, arrived.bind Dialect.ofJson? = some d) ∧
    ∀ c : AdapterConfig, c.validate = .ok () →
      AdapterConfig.ofText (Json.print c.json) = .ok c.withoutPassword := by
  refine ⟨Carries.bind_of_mem_arrivals PageInfo.carries,
    Carries.bind_of_mem_arrivals ScriptVariable.carries, ?script,
    Carries.bind_of_mem_arrivals Filter.carries, Carries.bind_of_mem_arrivals Request.carries,
    Carries.bind_of_mem_arrivals Column.carries, Carries.bind_of_mem_arrivals DriverInfo.carries,
    Carries.bind_of_mem_arrivals Dialect.carries, fun _ => AdapterConfig.ofText_print_json⟩
  -- All parts but this one are a fact about `Carries`, which asks for equality; a script arrives
  -- up to the order of its schema.
  intro s map arrived inside
  obtain ⟨way, transport, rfl⟩ := Json.exists_transport_of_mem_arrivals inside
  exact QueryScript.exists_agrees_of_transport transport map

/-- A script that declares two types, and a configuration with a password. -/
theorem descriptions_survive_transport_declared :
    let s : QueryScript := ⟨"1", "SELECT $n$", [⟨"n", .numeric, ["1"]⟩],
      some [("b", .date), ("a", .keyword)]⟩
    let c : AdapterConfig := ⟨⟨"mysql", none, some "[]", true⟩, ⟨"db", some "u", some "p"⟩, 1, some 0⟩
    (∀ schema ∈ s.schema, schema.IsMap) ∧ c.validate = .ok () ∧
    (∀ arrived ∈ s.json.arrivals, ∃ t, arrived.bind QueryScript.ofJson? = some t ∧ t.Agrees s) ∧
    AdapterConfig.ofText (Json.print c.json) = .ok c.withoutPassword := by
  intro s c
  have map : ∀ schema ∈ s.schema, schema.IsMap := by
    rintro _ ⟨⟩
    decide
  have accepted : c.validate = .ok () := by
    simp [c, AdapterConfig.validate, AdapterConfig.isQuote, Text.isAllBlank]
    rfl
  obtain ⟨-, -, script, -, -, -, -, -, config⟩ := descriptions_survive_transport
  exact ⟨map, accepted, script s map, config c accepted⟩

end PagedQuery
