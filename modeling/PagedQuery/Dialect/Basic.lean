/-
# Dialects

What a renderer has to know about a backend: how identifiers and strings are
quoted, how a page is asked for and how a timestamp literal begins.

A quote inside a quoted text is written twice.  In a string of a dialect with
backslash escapes a backslash is written twice as well.
-/

import PagedQuery.Text.CaseMap

namespace PagedQuery

/-- A database product with a dialect of its own. -/
inductive Product
  | sqlite
  | mySql
  | postgreSql
  | h2
  | clickHouse
  | presto
  | trino
  | hive
  | oracle
  | msSql
  | db2
  /-- Any other one, described by its driver. -/
  | generic
deriving DecidableEq

/-- What happens to the letter case of an identifier before it is quoted. -/
inductive Casing
  | unchanged
  | toUpper
  | toLower
deriving DecidableEq

/-- The clause that asks for a page. -/
inductive Pagination
  /-- `LIMIT n OFFSET m` -/
  | limitOffset
  /-- `OFFSET m ROWS FETCH NEXT n ROWS ONLY` -/
  | offsetFetch
  /-- No clause; a page is cut out of the cursor. -/
  | none
deriving DecidableEq

/-- How a timestamp literal is written. -/
inductive TimestampStyle
  /-- `TIMESTAMP '2024-01-31 00:00:00'` -/
  | typed
  /-- `'2024-01-31 00:00:00'` -/
  | plain
deriving DecidableEq

namespace Casing

/-- All ways. -/
def all : List Casing :=
  [unchanged, toUpper, toLower]

/-- The name a way is shown under. -/
def name : Casing → String
  | unchanged => "Unchanged"
  | toUpper => "ToUpper"
  | toLower => "ToLower"

/-- The case an identifier is put into. -/
def apply : Casing → List Char → List Char
  | unchanged, cs => cs
  | toUpper, cs => Text.upper cs
  | toLower, cs => Text.lower cs

end Casing

namespace Pagination

/-- All clauses. -/
def all : List Pagination :=
  [limitOffset, offsetFetch, none]

/-- The name a clause is shown under. -/
def name : Pagination → String
  | limitOffset => "LimitOffset"
  | offsetFetch => "OffsetFetch"
  | none => "None"

end Pagination

namespace TimestampStyle

/-- All styles. -/
def all : List TimestampStyle :=
  [typed, plain]

/-- The name a style is shown under. -/
def name : TimestampStyle → String
  | typed => "Typed"
  | plain => "Plain"

end TimestampStyle

/-- What a renderer has to know about a backend. -/
structure Dialect where
  /-- The tag it was found under. -/
  name : String
  product : Product
  quoteStart : Char
  quoteEnd : Char
  casing : Casing
  pagination : Pagination
  timestampStyle : TimestampStyle
  /-- Whether `AS` stands before the alias of a derived table. -/
  aliasAs : Bool
  /-- Whether a backslash escapes the next character of a string. -/
  backslashEscapes : Bool
deriving DecidableEq

namespace Dialect

/-- The dialect of standard SQL under a name. -/
def standard (name : String) (product : Product) : Dialect where
  name
  product
  quoteStart := '"'
  quoteEnd := '"'
  casing := .unchanged
  pagination := .limitOffset
  timestampStyle := .typed
  aliasAs := true
  backslashEscapes := false

/-- Whether a page can be asked for with a clause. -/
def supportsPaging (d : Dialect) : Bool :=
  d.pagination != .none

/-- A text in which the characters of a class are written twice. -/
def doubling (isDoubled : Char → Bool) (cs : List Char) : List Char :=
  cs.flatMap fun c => if isDoubled c then [c, c] else [c]

/-- An identifier in the dialect's case and quotes. -/
def quoteIdentifier (d : Dialect) (identifier : List Char) : List Char :=
  d.quoteStart :: (doubling (· == d.quoteEnd) (d.casing.apply identifier) ++ [d.quoteEnd])

/-- Whether a character of a string is written twice. -/
def doublesInString (d : Dialect) (c : Char) : Bool :=
  c == '\'' || (d.backslashEscapes && c == '\\')

/-- A string literal. -/
def quoteString (d : Dialect) (value : List Char) : List Char :=
  '\'' :: (doubling d.doublesInString value ++ ['\''])

end Dialect

end PagedQuery
