/-
# Command lines

    [options] COMMAND [options and operands]

| command | operands | options of its own |
| --- | --- | --- |
| `query` | script | source, `--page`, `--size`, `--count`, `--var`, `--format` |
| `catalogs` | | source |
| `tables` | catalog | source |
| `columns` | catalog, table | source, `--format` |
| `dialect` | driver identity, if any | `--dialect`, `--quote`, `--paging` |
| `version` | | |

The source is given by `--db`, `--config`, `--db-type` and `--dialect`.  The
options `-l` (`--log-level`), `-v` (`--verbose`) and `-h` (`--help`) stand
anywhere, `-V` (`--version`) only before the command.

An option's value follows it, or an equals sign after it; single letters may be
bundled, the last of them with its value.  After `--` there are operands only.
Arguments are looked at one by one and the first that is wrong, or that asks for
help or the version, ends the reading.  Only an option before the command whose
value is an argument of its own has to wait: its value is looked at when the next
option comes, or else after the command.
-/

import PagedQuery.CommandLine.Variable
import PagedQuery.Decimal.Reader
import PagedQuery.Report.Basic

namespace PagedQuery
namespace CommandLine

/-- How much is logged. -/
inductive LogLevel
  | error
  | warn
  | info
  | debug
  | trace
  | off
deriving DecidableEq

/-- The word for a level. -/
def LogLevel.word : LogLevel → String
  | error => "error"
  | warn => "warn"
  | info => "info"
  | debug => "debug"
  | trace => "trace"
  | off => "off"

/-- The level a word names, letter case counting. -/
def LogLevel.ofWord? (word : String) : Option LogLevel :=
  [error, warn, info, debug, trace, off].find? fun l => l.word == word

/-- Why no command was read. -/
inductive Stop
  | help
  | version
  | usage
deriving DecidableEq

/-- An option. -/
inductive Setting
  | logLevel
  | verbose
  | help
  | version
  | db
  | config
  | dbType
  | dialect
  | page
  | size
  | count
  | var
  | format
  | quote
  | paging
deriving DecidableEq

namespace Setting

/-- The long name of an option. -/
def long : Setting → String
  | logLevel => "log-level"
  | verbose => "verbose"
  | help => "help"
  | version => "version"
  | db => "db"
  | config => "config"
  | dbType => "db-type"
  | dialect => "dialect"
  | page => "page"
  | size => "size"
  | count => "count"
  | var => "var"
  | format => "format"
  | quote => "quote"
  | paging => "paging"

/-- The letter of an option, if it has one. -/
def short? : Setting → Option Char
  | logLevel => some 'l'
  | verbose => some 'v'
  | help => some 'h'
  | version => some 'V'
  | format => some 'f'
  | _ => none

/-- Whether an option has a value. -/
def hasValue : Setting → Bool
  | verbose | help | version | count | paging => false
  | _ => true

end Setting

/-- The options read so far. -/
structure Settings where
  logLevel : Option LogLevel
  verbose : Bool
  db : Option String
  config : Option String
  dbType : Option String
  dialect : Option String
  page : Option UInt64
  size : Option UInt64
  count : Bool
  vars : List ScriptVariable
  format : Option ReportFormat
  quote : Option String
  paging : Bool
deriving DecidableEq

namespace Settings

/-- No option read yet. -/
def none : Settings :=
  ⟨.none, false, .none, .none, .none, .none, .none, .none, false, [], .none, .none, false⟩

/-- A value for an option that has none yet. -/
def once {α : Type} (old : Option α) (new : Option α) : Option (Option α) :=
  if old.isSome then .none else new.map some

/-- A flag that is not set yet. -/
def flag (old : Bool) : Option Bool :=
  if old then .none else some true

/-- A path; it is not empty. -/
def path? (value : String) : Option String :=
  if value.isEmpty then .none else some value

/-- A word of 64 bits. -/
def number? (value : String) : Option UInt64 :=
  (Decimal.readNat? UInt64.size value.toList).map UInt64.ofNat

/-- The options with one more; `none` if it has no such value or may not be given
again.  The value of a flag is not looked at. -/
def give (s : Settings) (setting : Setting) (value : String) : Option Settings :=
  match setting with
  | .logLevel =>
    (once s.logLevel (LogLevel.ofWord? value)).map fun logLevel => { s with logLevel }
  | .verbose => (flag s.verbose).map fun verbose => { s with verbose }
  | .help | .version => some s
  | .db => (once s.db (path? value)).map fun db => { s with db }
  | .config => (once s.config (path? value)).map fun config => { s with config }
  | .dbType => (once s.dbType (some value)).map fun dbType => { s with dbType }
  | .dialect => (once s.dialect (some value)).map fun dialect => { s with dialect }
  | .page => (once s.page (number? value)).map fun page => { s with page }
  | .size => (once s.size (number? value)).map fun size => { s with size }
  | .count => (flag s.count).map fun count => { s with count }
  | .var =>
    match readVariable value with
    | .ok v => some { s with vars := s.vars ++ [v] }
    | .error _ => .none
  | .format => (once s.format (ReportFormat.ofWord? value.toList)).map fun format => { s with format }
  | .quote => (once s.quote (some value)).map fun quote => { s with quote }
  | .paging => (flag s.paging).map fun paging => { s with paging }

end Settings

/-- The name of a command. -/
inductive CommandName
  | version
  | query
  | catalogs
  | tables
  | columns
  | dialect
deriving DecidableEq

namespace CommandName

/-- The word for a command. -/
def word : CommandName → String
  | version => "version"
  | query => "query"
  | catalogs => "catalogs"
  | tables => "tables"
  | columns => "columns"
  | dialect => "dialect"

/-- The command a word names. -/
def ofWord? (word : String) : Option CommandName :=
  [version, query, catalogs, tables, columns, dialect].find? fun c => c.word == word

/-- The options that stand after a command. -/
def settings (c : CommandName) : List Setting :=
  let source := [.db, .config, .dbType, .dialect]
  [.logLevel, .verbose, .help] ++ match c with
    | version => []
    | query => source ++ [.page, .size, .count, .var, .format]
    | catalogs => source
    | tables => source
    | columns => source ++ [.format]
    | dialect => [.dialect, .quote, .paging]

/-- The most operands of a command. -/
def maxOperands : CommandName → Nat
  | version | catalogs => 0
  | query | tables | dialect => 1
  | columns => 2

end CommandName

/-- The options that stand before the command. -/
def rootSettings : List Setting :=
  [.logLevel, .verbose, .help, .version]

/-- What an argument with options leads to: the options with it, and the option whose
value is the next argument. -/
abbrev OptionResult := Except Stop (Settings × Option Setting)

/-- The options with one more. -/
def giveValue (s : Settings) (setting : Setting) (value : String) : OptionResult :=
  match s.give setting value with
  | some s => .ok (s, none)
  | none => .error .usage

/-- The options with one more that has no value. -/
def giveFlag (s : Settings) : Setting → OptionResult
  | .help => .error .help
  | .version => .error .version
  | setting => giveValue s setting ""

/-- An argument after its two hyphens. -/
def readLong (known : List Setting) (s : Settings) (body : List Char) : OptionResult :=
  let name := body.takeWhile (· != '=')
  match known.find? fun o => o.long.toList == name, body.drop name.length with
  | none, _ => .error .usage
  | some setting, [] => if setting.hasValue then .ok (s, some setting) else giveFlag s setting
  | some setting, _ :: value =>
    if setting.hasValue then giveValue s setting (String.ofList value) else .error .usage

/-- An argument after its single hyphen. -/
def readShort (known : List Setting) (s : Settings) : List Char → OptionResult
  | [] => .ok (s, none)
  | c :: cs =>
    match known.find? fun o => o.short? == some c with
    | none => .error .usage
    | some setting =>
      if setting.hasValue then
        match cs with
        | [] => .ok (s, some setting)
        | '=' :: value => giveValue s setting (String.ofList value)
        | value => giveValue s setting (String.ofList value)
      else do
        let (s, _) ← giveFlag s setting
        readShort known s cs

/-- An argument as a list of options, if it is one. -/
inductive Argument
  | long (body : List Char)
  | short (body : List Char)
  /-- Two hyphens alone. -/
  | endOfOptions
  | operand (text : String)

/-- What kind of argument a text is.  A single hyphen is an operand. -/
def Argument.ofText (text : String) : Argument :=
  match text.toList with
  | ['-', '-'] => .endOfOptions
  | '-' :: '-' :: body => .long body
  | '-' :: c :: body => .short (c :: body)
  | _ => .operand text

/-- Options and operands. -/
structure Found where
  settings : Settings
  operands : List String

/-- The options and operands with one more operand, unless there are too many. -/
def Found.addOperand (f : Found) (most : Nat) (text : String) : Except Stop Found :=
  if f.operands.length < most then .ok { f with operands := f.operands ++ [text] }
  else .error .usage

/-- The arguments after a command; `awaiting` is the option whose value comes next. -/
def readCommand (c : CommandName) : (awaiting : Option Setting) → Found → List String →
    Except Stop Found
  | none, f, [] => .ok f
  | some _, _, [] => .error .usage
  | some setting, f, arg :: args =>
    match Argument.ofText arg with
    | .operand value => do
      let (settings, _) ← giveValue f.settings setting value
      readCommand c none { f with settings } args
    | _ => .error .usage
  | none, f, arg :: args =>
    match Argument.ofText arg with
    | .operand text => do readCommand c none (← f.addOperand c.maxOperands text) args
    | .endOfOptions => args.foldlM (fun f text => f.addOperand c.maxOperands text) f
    | .long body => do
      let (settings, awaiting) ← readLong c.settings f.settings body
      readCommand c awaiting { f with settings } args
    | .short body => do
      let (settings, awaiting) ← readShort c.settings f.settings body
      readCommand c awaiting { f with settings } args

/-- Where a source is found and how its driver is identified. -/
structure SourceArguments where
  db : Option String
  config : Option String
  dbType : String
  dialect : Option String
deriving DecidableEq

/-- A command with its operands and options. -/
inductive Command
  | version
  | query (script : String) (source : SourceArguments) (page size : UInt64) (count : Bool)
      (vars : List ScriptVariable) (format : ReportFormat)
  | catalogs (source : SourceArguments)
  | tables (catalog : String) (source : SourceArguments)
  | columns (catalog table : String) (source : SourceArguments) (format : ReportFormat)
  | dialect (dbType : Option String) (tag : Option String) (quote : Option String) (paging : Bool)
deriving DecidableEq

/-- A command and how much is logged while it runs. -/
structure Invocation where
  command : Command
  verbose : Bool
  logLevel : Option LogLevel
deriving DecidableEq

/-- The source that options name. -/
def Settings.source (s : Settings) : SourceArguments :=
  ⟨s.db, s.config, s.dbType.getD "sqlite", s.dialect⟩

/-- The command of its options and operands, if no operand is missing. -/
def Found.command (f : Found) (c : CommandName) : Except Stop Command :=
  let s := f.settings
  let format := s.format.getD .table
  match c, f.operands with
  | .version, _ => .ok .version
  | .query, [script] =>
    .ok (.query script s.source (s.page.getD 1) (s.size.getD 100) s.count s.vars format)
  | .catalogs, _ => .ok (.catalogs s.source)
  | .tables, [catalog] => .ok (.tables catalog s.source)
  | .columns, [catalog, table] => .ok (.columns catalog table s.source format)
  | .dialect, operands => .ok (.dialect operands.head? s.dialect s.quote s.paging)
  | _, _ => .error .usage

/-- The arguments after the word `help`: nothing, or the name of a command. -/
def readHelp : List String → Stop
  | [] => .help
  | [word] => if (CommandName.ofWord? word).isSome || word == "help" then .help else .usage
  | _ => .usage

/-- An option before the command that is not among the options yet. -/
inductive Pending
  | none
  /-- Its value is the next argument. -/
  | awaiting (setting : Setting)
  /-- Its value has been read and not been looked at. -/
  | held (setting : Setting) (value : String)

/-- The option whose value is the next argument, if there is one. -/
def Pending.ofAwaiting : Option Setting → Pending
  | .none => none
  | .some setting => awaiting setting

/-- The options with the one that is pending. -/
def Pending.settle (s : Settings) : Pending → Except Stop Settings
  | none => .ok s
  | awaiting _ => .error .usage
  | held setting value => (giveValue s setting value).map (·.1)

/-- A command line; the options are those before the command. -/
def readArguments : Pending → Settings → List String → Except Stop Invocation
  | _, _, [] => .error .usage
  | .awaiting setting, s, arg :: args =>
    match Argument.ofText arg with
    | .operand value => readArguments (.held setting value) s args
    | _ => .error .usage
  | pending, s, arg :: args =>
    match Argument.ofText arg with
    | .operand word =>
      if word == "help" then .error (readHelp args)
      else
        match CommandName.ofWord? word with
        | none => .error .usage
        | some c => do
          let found ← readCommand c none ⟨.none, []⟩ args
          let command ← found.command c
          let s ← pending.settle s
          return {
            command
            verbose := s.verbose || found.settings.verbose
            logLevel := found.settings.logLevel.or s.logLevel }
    | .endOfOptions => .error .usage
    | .long body => do
      let s ← pending.settle s
      let (s, awaiting) ← readLong rootSettings s body
      readArguments (.ofAwaiting awaiting) s args
    | .short body => do
      let s ← pending.settle s
      let (s, awaiting) ← readShort rootSettings s body
      readArguments (.ofAwaiting awaiting) s args

/-- The invocation a command line denotes. -/
def Invocation.ofArguments (args : List String) : Except Stop Invocation :=
  readArguments .none .none args

end CommandLine
end PagedQuery
