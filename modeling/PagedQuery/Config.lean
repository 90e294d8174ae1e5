/-
# Configuration

How a source is reached and what it may be asked for.  A configuration is used only after
`validate`, which looks at three rules in this order and tells the first that is broken: the
driver has an identity that is not blank, or names a dialect; the fetch size is not zero; the
identifier quote, if one is given, is one or two characters.

A dialect's name that is there but blank satisfies the first rule, although `DriverInfo.override?`
passes over such a name.
-/

import PagedQuery.Dialect.Registry
import PagedQuery.Failure

namespace PagedQuery

/-- Where a source is and who asks. -/
structure SourceProperties where
  /-- The location in the driver's own form, such as a file path. -/
  url : String
  user : Option String
  password : Option String
deriving DecidableEq

/-- The properties of a source that is nowhere. -/
def SourceProperties.empty : SourceProperties :=
  ⟨"", none, none⟩

/-- How a source is reached and what it may be asked for. -/
structure AdapterConfig where
  driver : DriverInfo
  properties : SourceProperties
  /-- The most rows a driver is asked to fetch at once. -/
  maxFetchSize : UInt64
  /-- The most rows read where no page is asked for. -/
  rowCap : Option UInt64
deriving DecidableEq

namespace AdapterConfig

/-- The fetch size where none is given. -/
def defaultMaxFetchSize : UInt64 :=
  10000

/-- The configuration of a driver with nothing else given. -/
def ofDriver (driver : DriverInfo) : AdapterConfig :=
  ⟨driver, .empty, defaultMaxFetchSize, none⟩

/-- Whether an identifier quote is one or two characters. -/
def isQuote (quote : String) : Bool :=
  quote.length == 1 || quote.length == 2

/-- Refuses a configuration that breaks a rule. -/
def validate (c : AdapterConfig) : Except Failure Unit := do
  if Text.isAllBlank c.driver.dbType.toList && c.driver.sqlDialect.isNone then
    throw (.configuration "driver.dbType or driver.sqlDialect must be set")
  if c.maxFetchSize = 0 then
    throw (.configuration "maxFetchSize must be greater than zero")
  match c.driver.identifierQuote with
  | none => return ()
  | some quote =>
    if isQuote quote then return ()
    else throw (.configuration
      ("identifierQuote must be one character or an open/close pair, got '" ++ quote ++ "'"))

/-- The most rows read where no page is asked for. -/
def effectiveRowCap (c : AdapterConfig) : UInt64 :=
  c.rowCap.getD (UInt64.ofNat (UInt64.size - 1))

end AdapterConfig

end PagedQuery
