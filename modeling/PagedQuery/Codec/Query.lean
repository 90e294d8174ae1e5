/-
# Scripts and requests as documents

| record | fields |
| --- | --- |
| variable | `name`, `valueType`, defaulted `values` |
| script | defaulted `sourceId`, `script`, defaulted `variables`, `schema` |
| operand | `value`, `valueType` |
| selector | `column`, defaulted `alias` |
| aggregate | `column`, `function`, defaulted `alias` |
| filter | `column`, `operator`, defaulted `values`, `aggregate` |
| group | `column` |
| order | `column`, defaulted `direction`, `aggregate` |
| request | all defaulted: `selectors`, `aggregators`, `filters`, `groups`, `orders`, `pageInfo`, `localAggregate` |
-/

import PagedQuery.Codec.Table
import PagedQuery.Request
import PagedQuery.Script.Basic

namespace PagedQuery

namespace ScriptVariable

/-- A variable as a document. -/
def json (v : ScriptVariable) : Json :=
  .object
    [("name", .text v.name), ("valueType", v.valueType.json),
     ("values", .array (v.values.map Json.text))]

/-- The variable of a document. -/
def ofJson? (j : Json) : Option ScriptVariable := do
  let slot ← j.slots? ["name", "valueType", "values"]
  return {
    name := ← (slot "name").required Json.text?
    valueType := ← (slot "valueType").required ValueType.ofJson?
    values := ← (slot "values").defaulted [] (Json.list? Json.text?) }

end ScriptVariable

namespace Schema

/-- A schema as a document. -/
def json (s : Schema) : Json :=
  .object (s.map fun (column, valueType) => (column, valueType.json))

/-- The schema of members; of those about one column the last counts. -/
def ofMembers? (done : Schema) : List (String × Json) → Option Schema
  | [] => some done
  | (column, value) :: members => do
    let valueType ← ValueType.ofJson? value
    ofMembers? (done.put column valueType) members

/-- The schema of a document. -/
def ofJson? : Json → Option Schema
  | .object members => ofMembers? [] members
  | _ => none

end Schema

namespace QueryScript

/-- A script as a document. -/
def json (s : QueryScript) : Json :=
  .object
    [("sourceId", .text s.sourceId), ("script", .text s.script),
     ("variables", .array (s.vars.map ScriptVariable.json)),
     ("schema", Json.nullable Schema.json s.schema)]

/-- The script of a document. -/
def ofJson? (j : Json) : Option QueryScript := do
  let slot ← j.slots? ["sourceId", "script", "variables", "schema"]
  return {
    sourceId := ← (slot "sourceId").defaulted "" Json.text?
    script := ← (slot "script").required Json.text?
    vars := ← (slot "variables").defaulted [] (Json.list? ScriptVariable.ofJson?)
    schema := ← (slot "schema").defaulted none (Json.nullable? Schema.ofJson?) }

end QueryScript

namespace Operand

/-- An operand as a document. -/
def json (v : Operand) : Json :=
  .object [("value", .text v.value), ("valueType", v.valueType.json)]

/-- The operand of a document. -/
def ofJson? (j : Json) : Option Operand := do
  let slot ← j.slots? ["value", "valueType"]
  return {
    value := ← (slot "value").required Json.text?
    valueType := ← (slot "valueType").required ValueType.ofJson? }

end Operand

namespace AggregateFunction

/-- The function with a name. -/
def ofName? (name : String) : Option AggregateFunction :=
  all.find? fun f => f.name == name

/-- A function as a document. -/
def json (f : AggregateFunction) : Json :=
  .text f.name

/-- The function of a document. -/
def ofJson? : Json → Option AggregateFunction :=
  Json.named? ofName?

/-- A function is found again under the name it is written as. -/
theorem ofName?_name (f : AggregateFunction) : ofName? f.name = some f := by
  cases f <;> decide

end AggregateFunction

namespace Comparison

/-- The comparison with a name. -/
def ofName? (name : String) : Option Comparison :=
  all.find? fun c => c.name == name

/-- A comparison as a document. -/
def json (c : Comparison) : Json :=
  .text c.name

/-- The comparison of a document. -/
def ofJson? : Json → Option Comparison :=
  Json.named? ofName?

/-- A comparison is found again under the name it is written as. -/
theorem ofName?_name (c : Comparison) : ofName? c.name = some c := by
  cases c <;> decide

end Comparison

namespace SortDirection

/-- The direction with a name. -/
def ofName? (name : String) : Option SortDirection :=
  [ascending, descending].find? fun d => d.name == name

/-- A direction as a document. -/
def json (d : SortDirection) : Json :=
  .text d.name

/-- The direction of a document. -/
def ofJson? : Json → Option SortDirection :=
  Json.named? ofName?

/-- A direction is found again under the name it is written as. -/
theorem ofName?_name (d : SortDirection) : ofName? d.name = some d := by
  cases d <;> decide

end SortDirection

namespace Selector

/-- A selector as a document. -/
def json (s : Selector) : Json :=
  .object [("column", .text s.column), ("alias", Json.nullable Json.text s.label)]

/-- The selector of a document. -/
def ofJson? (j : Json) : Option Selector := do
  let slot ← j.slots? ["column", "alias"]
  return {
    column := ← (slot "column").required Json.text?
    label := ← (slot "alias").defaulted none (Json.nullable? Json.text?) }

end Selector

namespace Aggregate

/-- An aggregate as a document. -/
def json (a : Aggregate) : Json :=
  .object
    [("column", .text a.column), ("function", a.function.json),
     ("alias", Json.nullable Json.text a.label)]

/-- The aggregate of a document. -/
def ofJson? (j : Json) : Option Aggregate := do
  let slot ← j.slots? ["column", "function", "alias"]
  return {
    column := ← (slot "column").required Json.text?
    function := ← (slot "function").required AggregateFunction.ofJson?
    label := ← (slot "alias").defaulted none (Json.nullable? Json.text?) }

end Aggregate

namespace Filter

/-- A filter as a document. -/
def json (f : Filter) : Json :=
  .object
    [("column", .text f.column), ("operator", f.comparison.json),
     ("values", .array (f.values.map Operand.json)),
     ("aggregate", Json.nullable AggregateFunction.json f.aggregate)]

/-- The filter of a document. -/
def ofJson? (j : Json) : Option Filter := do
  let slot ← j.slots? ["column", "operator", "values", "aggregate"]
  return {
    column := ← (slot "column").required Json.text?
    comparison := ← (slot "operator").required Comparison.ofJson?
    values := ← (slot "values").defaulted [] (Json.list? Operand.ofJson?)
    aggregate := ←
      (slot "aggregate").defaulted none (Json.nullable? AggregateFunction.ofJson?) }

end Filter

namespace GroupKey

/-- A group column as a document. -/
def json (g : GroupKey) : Json :=
  .object [("column", .text g.column)]

/-- The group column of a document. -/
def ofJson? (j : Json) : Option GroupKey := do
  let slot ← j.slots? ["column"]
  return { column := ← (slot "column").required Json.text? }

end GroupKey

namespace SortKey

/-- A sort key as a document. -/
def json (o : SortKey) : Json :=
  .object
    [("column", .text o.column), ("direction", o.direction.json),
     ("aggregate", Json.nullable AggregateFunction.json o.aggregate)]

/-- The sort key of a document. -/
def ofJson? (j : Json) : Option SortKey := do
  let slot ← j.slots? ["column", "direction", "aggregate"]
  return {
    column := ← (slot "column").required Json.text?
    direction := ← (slot "direction").defaulted .ascending SortDirection.ofJson?
    aggregate := ←
      (slot "aggregate").defaulted none (Json.nullable? AggregateFunction.ofJson?) }

end SortKey

namespace Request

/-- A request as a document. -/
def json (r : Request) : Json :=
  .object
    [("selectors", .array (r.selectors.map Selector.json)),
     ("aggregators", .array (r.aggregates.map Aggregate.json)),
     ("filters", .array (r.filters.map Filter.json)),
     ("groups", .array (r.groups.map GroupKey.json)),
     ("orders", .array (r.orders.map SortKey.json)),
     ("pageInfo", r.pageInfo.json),
     ("localAggregate", .boolean r.localAggregate)]

/-- The request of a document. -/
def ofJson? (j : Json) : Option Request := do
  let slot ← j.slots?
    ["selectors", "aggregators", "filters", "groups", "orders", "pageInfo", "localAggregate"]
  return {
    selectors := ← (slot "selectors").defaulted [] (Json.list? Selector.ofJson?)
    aggregates := ← (slot "aggregators").defaulted [] (Json.list? Aggregate.ofJson?)
    filters := ← (slot "filters").defaulted [] (Json.list? Filter.ofJson?)
    groups := ← (slot "groups").defaulted [] (Json.list? GroupKey.ofJson?)
    orders := ← (slot "orders").defaulted [] (Json.list? SortKey.ofJson?)
    pageInfo := ← (slot "pageInfo").defaulted .first PageInfo.ofJson?
    localAggregate := ← (slot "localAggregate").defaulted false Json.boolean? }

end Request

end PagedQuery
