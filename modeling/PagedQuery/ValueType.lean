/-
# Logical value types

The type of a result column, of an operand and of a script variable.

A value is spliced into a script by its type: a string as a quoted literal, a number as it is, a
boolean as `TRUE` or `FALSE`, a date as a timestamp literal, an identifier as a quoted identifier,
and a fragment as raw SQL that the caller vouches for.  Keywords and snippets have a name but no
text, and are always refused.

The columns of a result are of the first five types (`isResult`).
-/

import PagedQuery.Text.CaseMap

namespace PagedQuery

/-- The logical type of a value. -/
inductive ValueType
  | string
  | numeric
  | boolean
  | date
  | fragment
  | identifier
  | keyword
  | snippet
deriving DecidableEq

namespace ValueType

/-- All types, in the order they are listed to a user. -/
def all : List ValueType :=
  [string, numeric, boolean, date, fragment, identifier, keyword, snippet]

/-- The name of a type in documents and tables. -/
def name : ValueType → String
  | string => "STRING"
  | numeric => "NUMERIC"
  | boolean => "BOOLEAN"
  | date => "DATE"
  | fragment => "FRAGMENT"
  | identifier => "IDENTIFIER"
  | keyword => "KEYWORD"
  | snippet => "SNIPPET"

/-- The name of a type as a user writes it. -/
def word : ValueType → String
  | string => "string"
  | numeric => "numeric"
  | boolean => "boolean"
  | date => "date"
  | fragment => "fragment"
  | identifier => "identifier"
  | keyword => "keyword"
  | snippet => "snippet"

/-- Whether a result column can have the type. -/
def isResult : ValueType → Bool
  | string | numeric | boolean | date | fragment => true
  | identifier | keyword | snippet => false

/-- The type a user names, in any letter case. -/
def ofWord? (cs : List Char) : Option ValueType :=
  all.find? fun t => t.word.toList == Text.lower cs

/-- What a user is told about a word that names no type. -/
def unknownMessage (word : String) : String :=
  "Unknown value type: " ++ word ++ ". Valid options: " ++
    String.intercalate ", " (all.map ValueType.word)

/-- The type with a name, letter case counting. -/
def ofName? (name : String) : Option ValueType :=
  all.find? fun t => t.name == name

/-- No type is missing from the list. -/
theorem mem_all (t : ValueType) : t ∈ all := by
  cases t <;> decide

/-- A type is found again under its name. -/
theorem ofName?_name (t : ValueType) : ofName? t.name = some t := by
  cases t <;> decide

end ValueType

end PagedQuery
