/-
# Finding the dialect of a driver

A driver is described by its product identity and may name a dialect outright.  Its dialect is the
first that is found of: the dialect it names, if that is a registered tag; the dialect registered
under its identity; the dialect of the product that has its identity for an alias; and the generic
dialect with the driver's own quotes and paging, which is always there.

A name that is not registered and a fallback are recorded as warnings; there is no failure.  The
dialect found keeps identifiers in the case they are written in, whatever its product does with
them.
-/

import PagedQuery.Dialect.Product

namespace PagedQuery

/-- How a driver describes the backend it speaks to. -/
structure DriverInfo where
  /-- The identity of the product. -/
  dbType : String
  /-- The tag of the dialect to use whatever the identity. -/
  sqlDialect : Option String
  /-- The quotes of the generic dialect: one character, or an opening and a closing one. -/
  identifierQuote : Option String
  /-- Whether the generic dialect may ask for pages with a clause. -/
  supportsPaging : Bool
deriving DecidableEq

/-- A driver of which only the identity is known. -/
def DriverInfo.ofIdentity (dbType : String) : DriverInfo :=
  ⟨dbType, none, none, false⟩

/-- The generic dialect with the quotes and the paging a driver asks for.  Only the
first two characters of the quotes count. -/
def genericDialect (driver : DriverInfo) : Dialect :=
  let quotes := match driver.identifierQuote.map String.toList with
    | some (opening :: closing :: _) => some (opening, closing)
    | some [both] => some (both, both)
    | _ => none
  let base := match quotes with
    | some (opening, closing) =>
      { Product.generic.dialect with quoteStart := opening, quoteEnd := closing }
    | none => Product.generic.dialect
  if driver.supportsPaging then { base with pagination := .limitOffset } else base

/-- The registered tags in alphabetical order, each with its dialect. -/
def registry : List (String × (DriverInfo → Dialect)) :=
  [("clickhouse", fun _ => Product.clickHouse.dialect),
   ("db2", fun _ => Product.db2.dialect),
   ("generic", genericDialect),
   ("h2", fun _ => Product.h2.dialect),
   ("hive", fun _ => Product.hive.dialect),
   ("mariadb", fun _ => { Product.mySql.dialect with name := "mariadb" }),
   ("mssql", fun _ => Product.msSql.dialect),
   ("mysql", fun _ => Product.mySql.dialect),
   ("oracle", fun _ => Product.oracle.dialect),
   ("postgresql", fun _ => Product.postgreSql.dialect),
   ("presto", fun _ => Product.presto.dialect),
   ("sqlite", fun _ => Product.sqlite.dialect),
   ("trino", fun _ => Product.trino.dialect)]

/-- The registered tags, sorted. -/
def registeredTags : List String :=
  registry.map (·.1)

/-- The dialect registered under a tag, in any letter case. -/
def lookupDialect? (tag : String) (driver : DriverInfo) : Option Dialect :=
  (registry.lookup (String.ofList (normalizeIdentity tag.toList))).map fun make => make driver

/-- Where a dialect was found. -/
inductive ResolutionSource
  /-- The dialect is the one that the driver names. -/
  | override
  /-- It is registered under the driver's identity. -/
  | registry
  /-- It is the one of the product with that identity. -/
  | product
  /-- Nothing was found, so it is the generic one. -/
  | fallback
deriving DecidableEq

/-- The name a source is shown under. -/
def ResolutionSource.name : ResolutionSource → String
  | override => "Override"
  | registry => "Registry"
  | product => "Product"
  | fallback => "Fallback"

/-- Something that was asked for and not found. -/
structure ResolutionWarning where
  requested : String
  message : String
deriving DecidableEq

namespace ResolutionWarning

/-- A dialect was named that is not registered. -/
def unregistered (tag : String) : ResolutionWarning :=
  ⟨tag, "sql dialect not found, use default sql dialect"⟩

/-- An identity is not known. -/
def unknownIdentity (dbType : String) : ResolutionWarning :=
  ⟨dbType, "DBType mismatched, use generic sql dialect"⟩

/-- The text a warning is shown with. -/
def text (w : ResolutionWarning) : String :=
  w.requested ++ ": " ++ w.message

end ResolutionWarning

/-- A dialect, where it was found, and what was not found on the way. -/
structure Resolution where
  dialect : Dialect
  source : ResolutionSource
  warnings : List ResolutionWarning
deriving DecidableEq

namespace DriverInfo

/-- The dialect a driver names, unless the name is blank. -/
def override? (driver : DriverInfo) : Option String :=
  driver.sqlDialect.filter fun tag => !Text.isAllBlank tag.toList

/-- The dialect found by the driver's identity. -/
def identified? (driver : DriverInfo) : Option (Dialect × ResolutionSource) :=
  match lookupDialect? driver.dbType driver with
  | some dialect => some (dialect, .registry)
  | none => (Product.ofIdentity? driver.dbType).map fun p => (p.dialect, .product)

/-- The dialect found by the driver's identity, or the generic one, after the given
warnings. -/
def resolveIdentity (driver : DriverInfo) (warnings : List ResolutionWarning) : Resolution :=
  match driver.identified? with
  | some (dialect, source) => ⟨{ dialect with casing := .unchanged }, source, warnings⟩
  | none =>
    ⟨{ genericDialect driver with casing := .unchanged }, .fallback,
      warnings ++ [.unknownIdentity driver.dbType]⟩

/-- The dialect of a driver. -/
def resolve (driver : DriverInfo) : Resolution :=
  match driver.override? with
  | none => driver.resolveIdentity []
  | some tag =>
    match lookupDialect? tag driver with
    | some dialect => ⟨{ dialect with casing := .unchanged }, .override, []⟩
    | none => driver.resolveIdentity [.unregistered tag]

end DriverInfo

/-- The registered tags are in strictly ascending order. -/
theorem registeredTags_sorted : registeredTags.Pairwise (· < ·) := by
  decide

end PagedQuery
