/-
# Adapters

An adapter binds a source to its configuration and decides for every request where it is answered.

A request for the source is rendered once as a query.  Where the dialect has a page clause the
query carries it, mode `paginated`, and the whole result is the page; where it has none the query
is the `plain` one and the page is cut out of the cursor.  `sourceTexts` settles this choice
together with the text that counts the rows, so that the pager is told one strategy and never has
to know the dialect.

A request that is aggregated locally renders the script alone, reads its rows up to the row cap
and hands them over in one table; the answer is the aggregator's, whatever it is.

All texts are rendered before a connection is opened, so a script or a request that has no text
leaves the source alone.  What the driver can do is asked once and kept (`Session`), so all
requests of a session are answered by the same reading of the driver.
-/

import PagedQuery.Catalog
import PagedQuery.Config
import PagedQuery.Pager
import PagedQuery.Select

namespace PagedQuery

/-- An engine that aggregates full tables outside the source. -/
abbrev Aggregator (σ : Type) :=
  (name : Option String) → Request → List Table → Action σ Table

/-- A source with its configuration and, if there is one, an aggregator. -/
structure Adapter (σ : Type) where
  config : AdapterConfig
  source : Source σ
  aggregator : Option (Aggregator σ)

/-- What an adapter knows of its driver, and the state of the world. -/
structure Session (σ : Type) where
  /-- What the driver can do, once it has been asked. -/
  capabilities : Option Capabilities
  world : σ

namespace Session

variable {σ : Type}

/-- A session in which the driver has not been asked anything. -/
def start (world : σ) : Session σ :=
  ⟨none, world⟩

/-- A step on the world of a session. -/
def onWorld {α : Type} (x : Action σ α) : Action (Session σ) α := fun s =>
  let (result, world) := x s.world
  (result, { s with world })

end Session

namespace Adapter

variable {σ : Type}

/-- An adapter with a configuration that breaks no rule. -/
def ofConfig (config : AdapterConfig) (source : Source σ) (aggregator : Option (Aggregator σ)) :
    Except Failure (Adapter σ) := do
  config.validate
  return ⟨config, source, aggregator⟩

/-- Refuses a configuration that names no database file; after that it must break no
rule either. -/
def validateFile (config : AdapterConfig) : Except Failure Unit := do
  if Text.isAllBlank config.properties.url.toList then
    throw (.configuration "properties.url must name a SQLite database")
  config.validate

/-- The dialect of the source. -/
def resolution (a : Adapter σ) : Resolution :=
  a.config.driver.resolve

/-- What the driver can do, asked the first time only. -/
def capabilities (a : Adapter σ) : Action (Session σ) Capabilities := fun s =>
  match s.capabilities with
  | some known => (.ok known, s)
  | none =>
    let (answer, world) := a.source.capabilities s.world
    (.ok answer, ⟨some answer, world⟩)

/-- A pager over the source. -/
def pager (a : Adapter σ) : Action (Session σ) (Pager σ) := do
  let capabilities ← a.capabilities
  return (Pager.ofSource a.source capabilities).withMaxFetchSize a.config.maxFetchSize.toNat

/-- Runs a query as it stands and reads all rows up to the configured cap. -/
def runQuery (a : Adapter σ) (sql : String) : Action (Session σ) Table := do
  let pager ← a.pager
  Session.onWorld (pager.execute sql a.config.effectiveRowCap.toNat)

/-- Opens a connection and releases it. -/
def testConnection (a : Adapter σ) : Action (Session σ) Unit :=
  Session.onWorld (a.source.withConnection fun _ => .give ())

/-- Runs SQL that was not rendered from a script. -/
def executeSql (a : Adapter σ) (sql : String) : Action (Session σ) Table := do
  return (← a.runQuery sql).withScript sql

/-- The texts needed to answer a request on the source: the query, how its page is
cut, and the query for the total if that is wanted. -/
def sourceTexts (a : Adapter σ) (script : QueryScript) (request : Request) :
    Except Failure (String × PagingStrategy × Option String) := do
  let dialect := a.resolution.dialect
  request.pageInfo.validate
  let (mode, strategy) :=
    if dialect.supportsPaging then (RenderMode.paginated, PagingStrategy.native)
    else (RenderMode.plain, PagingStrategy.emulated)
  let sql ← dialect.render script request mode
  let countSql ←
    if request.pageInfo.countTotal then
      (dialect.render script request .countOnly).map some
    else .ok none
  return (sql, strategy, countSql)

/-- Answers a request on the source.  The state holds the caller's request; its total
is noted only if everything succeeds. -/
def executeOnSource (a : Adapter σ) (script : QueryScript) :
    Action (Request × Session σ) Table := fun (request, session) =>
  let answer : Action (Session σ) (Table × PageInfo) := do
    let (sql, strategy, countSql) ← .ofExcept (a.sourceTexts script request)
    let pager ← a.pager
    Session.onWorld fun world =>
      match pager.fetchPage strategy sql countSql (request.pageInfo, world) with
      | (.ok table, (page, world)) => (.ok (table.withScript sql, page), world)
      | (.error e, (_, world)) => (.error e, world)
  match answer session with
  | (.ok (table, page), session) => (.ok table, ({ request with pageInfo := page }, session))
  | (.error e, session) => (.error e, (request, session))

/-- Answers a request with the aggregator: the script's full result is one table
under the script's key, with the declared types, and the answer is the
aggregator's. -/
def executeLocally (a : Adapter σ) (script : QueryScript) (request : Request) :
    Action (Session σ) Table := do
  match a.aggregator with
  | none => .fail .aggregatorMissing
  | some aggregate =>
    let sql ← .ofExcept (a.resolution.dialect.render script request .scriptOnly)
    let table ← a.runQuery sql
    let handed := ((table.withDeclaredTypes script.declaredType?).withName script.key).withScript sql
    Session.onWorld (aggregate none request [handed])

/-- Answers a request.  The state holds the caller's request besides the session. -/
def execute (a : Adapter σ) (script : QueryScript) : Action (Request × Session σ) Table :=
  fun (request, session) =>
    if request.localAggregate then Action.onSecond (a.executeLocally script request) (request, session)
    else a.executeOnSource script (request, session)

/-- The catalogs of the source. -/
def listCatalogs (a : Adapter σ) : Action (Session σ) (List String) :=
  Session.onWorld a.source.listCatalogs

/-- The tables of a catalog. -/
def listTables (a : Adapter σ) (catalog : String) : Action (Session σ) (List String) :=
  Session.onWorld (a.source.listTables catalog)

/-- The columns of a table. -/
def listColumns (a : Adapter σ) (catalog table : String) : Action (Session σ) (List Column) :=
  Session.onWorld (a.source.listColumns catalog table)

end Adapter

end PagedQuery
