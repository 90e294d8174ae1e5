/-
# Dialects and configurations as documents

| record | fields |
| --- | --- |
| driver | `dbType`, defaulted `sqlDialect`, `identifierQuote`, `supportsPaging` |
| properties | `url`, defaulted `user`, `password`; the password is never written |
| configuration | `driver`, defaulted `properties`, `maxFetchSize`, `rowCap` |
| dialect | `name`, `product`, `quote_start`, `quote_end`, `casing`, `pagination`, `timestamp_literal`, `table_alias_as`, `backslash_escapes` |
-/

import PagedQuery.Config
import PagedQuery.Json.Printer
import PagedQuery.Json.Reader
import PagedQuery.Json.Record

namespace PagedQuery

namespace DriverInfo

/-- A driver as a document. -/
def json (d : DriverInfo) : Json :=
  .object
    [("dbType", .text d.dbType), ("sqlDialect", Json.nullable Json.text d.sqlDialect),
     ("identifierQuote", Json.nullable Json.text d.identifierQuote),
     ("supportsPaging", .boolean d.supportsPaging)]

/-- The driver of a document. -/
def ofJson? (j : Json) : Option DriverInfo := do
  let slot ← j.slots? ["dbType", "sqlDialect", "identifierQuote", "supportsPaging"]
  return {
    dbType := ← (slot "dbType").required Json.text?
    sqlDialect := ← (slot "sqlDialect").defaulted none (Json.nullable? Json.text?)
    identifierQuote := ← (slot "identifierQuote").defaulted none (Json.nullable? Json.text?)
    supportsPaging := ← (slot "supportsPaging").defaulted false Json.boolean? }

end DriverInfo

namespace SourceProperties

/-- Properties as a document, without the password. -/
def json (p : SourceProperties) : Json :=
  .object [("url", .text p.url), ("user", Json.nullable Json.text p.user)]

/-- The properties of a document. -/
def ofJson? (j : Json) : Option SourceProperties := do
  let slot ← j.slots? ["url", "user", "password"]
  return {
    url := ← (slot "url").required Json.text?
    user := ← (slot "user").defaulted none (Json.nullable? Json.text?)
    password := ← (slot "password").defaulted none (Json.nullable? Json.text?) }

end SourceProperties

namespace AdapterConfig

/-- A configuration as a document. -/
def json (c : AdapterConfig) : Json :=
  .object
    [("driver", c.driver.json), ("properties", c.properties.json),
     ("maxFetchSize", .word c.maxFetchSize), ("rowCap", Json.nullable Json.word c.rowCap)]

/-- The configuration of a document. -/
def ofJson? (j : Json) : Option AdapterConfig := do
  let slot ← j.slots? ["driver", "properties", "maxFetchSize", "rowCap"]
  return {
    driver := ← (slot "driver").required DriverInfo.ofJson?
    properties := ← (slot "properties").defaulted .empty SourceProperties.ofJson?
    maxFetchSize := ← (slot "maxFetchSize").defaulted defaultMaxFetchSize Json.word?
    rowCap := ← (slot "rowCap").defaulted none (Json.nullable? Json.word?) }

/-- The configuration of a text, if it breaks no rule. -/
def ofText (text : String) : Except Failure AdapterConfig := do
  match (Json.read? text).bind ofJson? with
  | none => throw (.serialization "not a configuration")
  | some config =>
    config.validate
    return config

end AdapterConfig

namespace Casing

/-- The way with a name. -/
def ofName? (name : String) : Option Casing :=
  all.find? fun c => c.name == name

/-- A casing is found again under the name it is written as. -/
theorem ofName?_name (c : Casing) : ofName? c.name = some c := by
  cases c <;> decide

end Casing

namespace Pagination

/-- The clause with a name. -/
def ofName? (name : String) : Option Pagination :=
  all.find? fun p => p.name == name

/-- A way of paging is found again under the name it is written as. -/
theorem ofName?_name (p : Pagination) : ofName? p.name = some p := by
  cases p <;> decide

end Pagination

namespace TimestampStyle

/-- The style with a name. -/
def ofName? (name : String) : Option TimestampStyle :=
  all.find? fun s => s.name == name

/-- A style of timestamps is found again under the name it is written as. -/
theorem ofName?_name (s : TimestampStyle) : ofName? s.name = some s := by
  cases s <;> decide

end TimestampStyle

namespace Product

/-- The product with a name. -/
def ofName? (name : String) : Option Product :=
  all.find? fun p => p.name == name

/-- A product is found again under the name it is written as. -/
theorem ofName?_name (p : Product) : ofName? p.name = some p := by
  cases p <;> decide

end Product

namespace Dialect

/-- A dialect as a document. -/
def json (d : Dialect) : Json :=
  .object
    [("name", .text d.name), ("product", .text d.product.name),
     ("quote_start", .text (String.singleton d.quoteStart)),
     ("quote_end", .text (String.singleton d.quoteEnd)), ("casing", .text d.casing.name),
     ("pagination", .text d.pagination.name), ("timestamp_literal", .text d.timestampStyle.name),
     ("table_alias_as", .boolean d.aliasAs), ("backslash_escapes", .boolean d.backslashEscapes)]

/-- The dialect of a document. -/
def ofJson? (j : Json) : Option Dialect := do
  let slot ← j.slots?
    ["name", "product", "quote_start", "quote_end", "casing", "pagination", "timestamp_literal",
     "table_alias_as", "backslash_escapes"]
  return {
    name := ← (slot "name").required Json.text?
    product := ← (slot "product").required (Json.named? Product.ofName?)
    quoteStart := ← (slot "quote_start").required Json.char?
    quoteEnd := ← (slot "quote_end").required Json.char?
    casing := ← (slot "casing").required (Json.named? Casing.ofName?)
    pagination := ← (slot "pagination").required (Json.named? Pagination.ofName?)
    timestampStyle := ← (slot "timestamp_literal").required (Json.named? TimestampStyle.ofName?)
    aliasAs := ← (slot "table_alias_as").required Json.boolean?
    backslashEscapes := ← (slot "backslash_escapes").required Json.boolean? }

end Dialect

end PagedQuery
