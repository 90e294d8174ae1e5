/-
# Running a command

A command ends with an exit code, what it printed, and the failure it was ended by, if any.  The
code is 0 if the command did what it was asked to, help and the version included, 1 if it failed,
and 2 if the command line was wrong.

Commands on a source check things in this order: the configuration file, the location of the
database, the configuration, the page, the rendering.  Only then is the database opened.  The
order matters where two things are wrong at once, since one failure alone is told.
-/

import PagedQuery.Adapter
import PagedQuery.Codec.Config
import PagedQuery.CommandLine.Arguments

namespace PagedQuery
namespace CommandLine

/-- How a run ended. -/
structure Outcome where
  code : Nat
  /-- What was printed. -/
  printed : String
  /-- What the run failed with. -/
  failure : Option String
deriving DecidableEq

/-- The name and the version of the program. -/
def versionLine : String :=
  "sqladapter 0.0.1"

namespace Outcome

/-- A run that printed lines and was done. -/
def done (lines : List String) : Outcome :=
  ⟨0, String.join (lines.map fun line => line ++ "\n"), none⟩

/-- A run that failed with a text. -/
def failed (text : String) : Outcome :=
  ⟨1, "", some ("Error: " ++ text)⟩

/-- A run whose command line was not that of a command. -/
def ofStop : Stop → Outcome
  | .help => ⟨0, "", none⟩
  | .version => done [versionLine]
  | .usage => ⟨2, "", none⟩

/-- A run that printed lines, or the failure that kept it from doing so. -/
def ofResult : Except String (List String) → Outcome
  | .ok lines => done lines
  | .error text => failed text

end Outcome

/-- What a command reaches beyond its arguments: the text of a file, or why it cannot
be read; and the source of a database location in the state of the world. -/
structure Surroundings (σ : Type) where
  fileText : String → Except String String
  database : String → Source σ
  world : σ

/-- The configuration of a source's arguments: the file's or that of the driver alone,
with the location and the dialect that are given besides. -/
def SourceArguments.config? (a : SourceArguments) (fileText : String → Except String String) :
    Except Failure AdapterConfig := do
  let base ← match a.config with
    | some path =>
      match fileText path with
      | .ok text => AdapterConfig.ofText text
      | .error reason => .error (.io reason)
    | none => .ok (AdapterConfig.ofDriver (DriverInfo.ofIdentity a.dbType))
  let located := match a.db with
    | some url => { base with properties := { base.properties with url } }
    | none => base
  return match a.dialect with
    | some tag => { located with driver := { located.driver with sqlDialect := some tag } }
    | none => located

/-- A failure as a command shows it. -/
def shown {α : Type} : Except Failure α → Except String α
  | .ok a => .ok a
  | .error e => .error e.text

/-- The adapter of a source's arguments. -/
def adapter {σ : Type} (env : Surroundings σ) (a : SourceArguments) :
    Except String (Adapter σ) := do
  let config ← shown (a.config? env.fileText)
  if config.properties.url.isEmpty then
    throw "No database given. Use --db <path> or a config file with properties.url"
  shown (Adapter.validateFile config)
  return ⟨config, env.database config.properties.url, none⟩

/-- What a step on a source gives at the start of a session. -/
def outcome {σ α : Type} (env : Surroundings σ) (x : Action (Session σ) α) : Except String α :=
  shown (x (Session.start env.world)).1

/-- The line below a page: which it is and, if known, the number of all rows. -/
def pageLine (p : PageInfo) : String :=
  "Page " ++ Decimal.numeral p.pageNo.toNat ++ " (" ++ Decimal.numeral p.pageSize.toNat ++
    " rows per page)" ++
    match p.total with
    | some total => ", " ++ Decimal.numeral total.toNat ++ " rows in total"
    | none => ""

/-- A page of a script's rows. -/
def runQuery {σ : Type} (env : Surroundings σ) (script : String) (source : SourceArguments)
    (page : PageInfo) (vars : List ScriptVariable) (format : ReportFormat) :
    Except String (List String) := do
  let adapter ← adapter env source
  let query : QueryScript :=
    { QueryScript.ofText script with
      sourceId := adapter.config.properties.url
      vars := mergeVariables vars }
  let request := Request.ofPage page
  let (result, (request, _)) := adapter.execute query (request, Session.start env.world)
  let table ← shown result
  let lines := [Report.ofTable table format]
  return if format = .table then lines ++ [pageLine request.pageInfo] else lines

/-- The properties of a driver's dialect as a grid, and the warnings. -/
def dialectLines (r : Resolution) : List String :=
  let d := r.dialect
  let rows :=
    [["dialect", d.name],
     ["product", d.product.tag],
     ["resolved via", r.source.name],
     ["quotes", String.ofList [d.quoteStart, d.quoteEnd]],
     ["casing", d.casing.name],
     ["pagination", d.pagination.name],
     ["timestamp literal", d.timestampStyle.name],
     ["AS before alias", if d.aliasAs then "true" else "false"]]
  String.ofList (Report.Grid.text ⟨["Property", "Value"], rows⟩) ::
    r.warnings.map fun w => "Warning: " ++ w.text

/-- The dialect of a driver identity, or the registered tags. -/
def runDialect (dbType tag quote : Option String) (paging : Bool) : Except String (List String) :=
  match dbType with
  | none => .ok ("Registered dialects:" :: registeredTags.map fun tag => "  " ++ tag)
  | some dbType => do
    let driver : DriverInfo := ⟨dbType, tag, quote, paging⟩
    shown (AdapterConfig.ofDriver driver).validate
    return dialectLines driver.resolve

/-- What a command prints, or the failure that keeps it from doing so. -/
def Command.lines {σ : Type} (env : Surroundings σ) : Command → Except String (List String)
  | .version =>
    .ok [versionLine, "Registered dialects: " ++ String.intercalate ", " registeredTags]
  | .query script source page size count vars format =>
    runQuery env script source (.request page size count) vars format
  | .catalogs source => do
    let adapter ← adapter env source
    outcome env adapter.listCatalogs
  | .tables catalog source => do
    let adapter ← adapter env source
    let tables ← outcome env (adapter.listTables catalog)
    return if tables.isEmpty then ["No tables in catalog '" ++ catalog ++ "'"] else tables
  | .columns catalog table source format => do
    let adapter ← adapter env source
    let columns ← outcome env (adapter.listColumns catalog table)
    if columns.isEmpty then
      throw ("Table '" ++ catalog ++ "." ++ table ++ "' not found or has no columns")
    return [Report.ofColumns columns format]
  | .dialect dbType tag quote paging => runDialect dbType tag quote paging

/-- Runs a command line. -/
def run {σ : Type} (env : Surroundings σ) (args : List String) : Outcome :=
  match Invocation.ofArguments args with
  | .error stop => .ofStop stop
  | .ok invocation => .ofResult (invocation.command.lines env)

/-- The configuration file that a command reads. -/
def Command.configPath? : Command → Option String
  | .query _ source .. => source.config
  | .catalogs source => source.config
  | .tables _ source => source.config
  | .columns _ _ source _ => source.config
  | _ => none

end CommandLine
end PagedQuery
