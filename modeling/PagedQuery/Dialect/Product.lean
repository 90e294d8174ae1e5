/-
# The dialects of the known products

| product | quotes | case | pages | timestamp | other |
| --- | --- | --- | --- | --- | --- |
| SQLite | `"` | kept | `LIMIT` | plain | |
| MySQL, ClickHouse | backquote | kept | `LIMIT` | typed | backslash escapes |
| PostgreSQL | `"` | lower | `LIMIT` | typed | |
| H2 | `"` | upper | `LIMIT` | typed | |
| Presto, Trino | `"` | kept | `LIMIT` | typed | |
| Hive | backquote | kept | none | plain | backslash escapes |
| Oracle | `"` | upper | none | typed | no `AS` before an alias |
| SQL Server | `[` `]` | kept | none | plain | |
| Db2 | `"` | upper | `FETCH` | typed | |
| generic | `"` | kept | none | typed | |

A product is recognised by its identifier or one of its aliases, where letter
case, blanks, hyphens and underscores do not count.
-/

import PagedQuery.Dialect.Basic
import PagedQuery.Text.Blank

namespace PagedQuery

/-- A driver's identity in lower case, without blanks, hyphens and underscores. -/
def normalizeIdentity (identity : List Char) : List Char :=
  (identity.filter fun c => !Text.isBlank c && c != '-' && c != '_').flatMap Text.lowerChar

namespace Product

/-- All products. -/
def all : List Product :=
  [sqlite, mySql, postgreSql, h2, clickHouse, presto, trino, hive, oracle, msSql, db2, generic]

/-- The name of a product in documents. -/
def name : Product → String
  | sqlite => "Sqlite"
  | mySql => "MySql"
  | postgreSql => "PostgreSql"
  | h2 => "H2"
  | clickHouse => "ClickHouse"
  | presto => "Presto"
  | trino => "Trino"
  | hive => "Hive"
  | oracle => "Oracle"
  | msSql => "MsSql"
  | db2 => "Db2"
  | generic => "Generic"

/-- The tag a product's dialect is registered under. -/
def tag : Product → String
  | sqlite => "sqlite"
  | mySql => "mysql"
  | postgreSql => "postgresql"
  | h2 => "h2"
  | clickHouse => "clickhouse"
  | presto => "presto"
  | trino => "trino"
  | hive => "hive"
  | oracle => "oracle"
  | msSql => "mssql"
  | db2 => "db2"
  | generic => "generic"

/-- The identities a product goes by, in normal form. -/
def identities : Product → List String
  | sqlite => ["sqlite", "sqlite3"]
  | mySql => ["mysql", "mariadb", "tidb", "doris", "starrocks"]
  | postgreSql => ["postgresql", "postgres", "pg", "pgsql", "greenplum", "redshift"]
  | h2 => ["h2"]
  | clickHouse => ["clickhouse"]
  | presto => ["presto"]
  | trino => ["trino"]
  | hive => ["hive", "hive2", "sparksql", "spark"]
  | oracle => ["oracle", "oraclethin"]
  | msSql => ["mssql", "sqlserver", "microsoftsqlserver", "jtds"]
  | db2 => ["db2", "ibmdb2"]
  | generic => []

/-- The product that goes by an identity. -/
def ofIdentity? (identity : String) : Option Product :=
  let normal := String.ofList (normalizeIdentity identity.toList)
  all.find? fun p => p.identities.contains normal

/-- The dialect of a product, with the letter case it is known for. -/
def dialect (p : Product) : Dialect :=
  let base := Dialect.standard p.tag p
  match p with
  | sqlite => { base with timestampStyle := .plain }
  | mySql | clickHouse =>
    { base with quoteStart := '\x60', quoteEnd := '\x60', backslashEscapes := true }
  | postgreSql => { base with casing := .toLower }
  | h2 => { base with casing := .toUpper }
  | presto | trino => base
  | hive =>
    { base with
      quoteStart := '\x60', quoteEnd := '\x60', backslashEscapes := true
      pagination := .none, timestampStyle := .plain }
  | oracle => { base with casing := .toUpper, pagination := .none, aliasAs := false }
  | msSql =>
    { base with
      quoteStart := '[', quoteEnd := ']', pagination := .none, timestampStyle := .plain }
  | db2 => { base with casing := .toUpper, pagination := .offsetFetch }
  | generic => { base with pagination := .none }

end Product

end PagedQuery
