/-
# Native type names

Drivers name column types in their own words: `VARCHAR(255)`, `int unsigned`,
`Nullable(Int32)`.  A name is put into its normal form and looked up; a name that
is not listed but wraps another one in parentheses has the type of that one, and
any other name is a string.

The normal form is in upper case, without the first parenthesised argument and
without the words `UNSIGNED`, `SIGNED` and `ZEROFILL`, its words one space apart.
-/

import PagedQuery.ValueType
import PagedQuery.Text.Blank

namespace PagedQuery
namespace NativeType

/-- The listed names of every type, in normal form. -/
def listed : List (ValueType × List String) :=
  [(.numeric,
      ["TINYINT", "SMALLINT", "MEDIUMINT", "INT", "INTEGER", "BIGINT", "INT2", "INT4", "INT8",
       "SERIAL", "BIGSERIAL", "SMALLSERIAL", "FLOAT", "FLOAT4", "FLOAT8", "REAL", "DOUBLE",
       "DOUBLE PRECISION", "NUMERIC", "DECIMAL", "NUMBER", "DEC", "MONEY", "SMALLMONEY", "INT32",
       "INT64", "UINT8", "UINT16", "UINT32", "UINT64", "FLOAT32", "FLOAT64", "LONG",
       "BINARY_FLOAT", "BINARY_DOUBLE"]),
   (.date,
      ["DATE", "TIME", "DATETIME", "DATETIME2", "SMALLDATETIME", "DATETIMEOFFSET", "TIMESTAMP",
       "TIMESTAMPTZ", "TIMETZ", "TIMESTAMP WITH TIME ZONE", "TIMESTAMP WITHOUT TIME ZONE",
       "TIMESTAMP WITH LOCAL TIME ZONE", "TIME WITH TIME ZONE", "TIME WITHOUT TIME ZONE", "YEAR",
       "DATE32", "DATETIME64"]),
   (.boolean, ["BOOL", "BOOLEAN", "BIT"]),
   (.string,
      ["CHAR", "VARCHAR", "NCHAR", "NVARCHAR", "VARCHAR2", "NVARCHAR2", "TEXT", "TINYTEXT",
       "MEDIUMTEXT", "LONGTEXT", "NTEXT", "CLOB", "NCLOB", "STRING", "UUID", "JSON", "JSONB",
       "CHARACTER", "CHARACTER VARYING", "ENUM", "SET", "XML"])]

/-- The type of a name that is neither listed nor a wrapper. -/
def unlisted : ValueType :=
  .string

/-- Words that qualify a numeric type without changing it. -/
def qualifiers : List String :=
  ["UNSIGNED", "SIGNED", "ZEROFILL"]

/-- A name without its first parenthesised argument; an argument that is not closed
extends to the end. -/
def dropArgument (cs : List Char) : List Char :=
  cs.takeWhile (· != '(') ++ ((cs.dropWhile (· != '(')).dropWhile (· != ')')).drop 1

/-- The normal form of a name. -/
def normalize (native : List Char) : List Char :=
  let parts := Text.words (dropArgument (Text.upper (Text.trim native)))
  Text.joinWith " " (parts.filter fun part => !qualifiers.contains (String.ofList part))

/-- The type listed for a name in normal form. -/
def lookup? (normal : List Char) : Option ValueType :=
  (listed.find? fun entry => entry.2.contains (String.ofList normal)).map (·.1)

/-- The text between the first opening parenthesis of a name and the closing one
at its end, if it ends with one. -/
def argument? (native : List Char) : Option (List Char) :=
  let body := Text.trimEnd native
  if body.getLast? = some ')' ∧ '(' ∈ native then
    some ((body.dropLast.dropWhile (· != '(')).drop 1)
  else none

/-- The name a wrapper is put around.  An argument with a comma or of digits only
is a precision and no name. -/
def wrapped? (native : List Char) : Option (List Char) :=
  (argument? native).filter fun inner =>
    !inner.contains ',' && !(Text.trim inner).all Char.isDigit

/-- What stands in the parentheses is shorter than the whole, since the parentheses are left out. -/
theorem length_argument?_lt {native inner : List Char} (h : argument? native = some inner) :
    inner.length < native.length := by
  simp only [argument?] at h
  split at h
  · next closed =>
    obtain rfl := Option.some.inj h
    have nonempty : Text.trimEnd native ≠ [] := fun empty => by
      rw [empty] at closed; simp at closed
    have body := Text.length_trimEnd_le native
    have kept := (List.dropWhile_sublist (l := (Text.trimEnd native).dropLast)
      (· != '(')).length_le
    have positive := List.length_pos_iff.2 nonempty
    simp only [List.length_drop, List.length_dropLast] at kept ⊢
    omega
  · simp at h

/-- The same for what a wrapper holds; it is why `ofNative` ends. -/
theorem length_wrapped?_lt {native inner : List Char} (h : wrapped? native = some inner) :
    inner.length < native.length :=
  length_argument?_lt (Option.eq_some_of_filter_eq_some h)

/-- The logical type of a native name. -/
def valueType (native : List Char) : ValueType :=
  match lookup? (normalize native) with
  | some valueType => valueType
  | none =>
    match _wrapper : wrapped? native with
    | some inner => valueType inner
    | none => unlisted
termination_by native.length
decreasing_by exact length_wrapped?_lt _wrapper

end NativeType

/-- The logical type of a native type name. -/
def ValueType.ofNative (native : String) : ValueType :=
  NativeType.valueType native.toList

end PagedQuery
