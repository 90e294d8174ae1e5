/-
# Query scripts

A script is SQL text with `$name$` placeholders, the variables that fill them and,
if declared, the types of result columns.

Its key is the checksum of its parts: the source, the text and, for every
variable, its name, its type and its values, with the control characters `1E`
before a variable and `1F` before a text or a value.
-/

import PagedQuery.ValueType
import PagedQuery.Checksum.Crc32

namespace PagedQuery

/-- A variable of a script; one without values stands for `NULL`. -/
structure ScriptVariable where
  name : String
  valueType : ValueType
  values : List String
deriving DecidableEq

/-- Declared types of result columns, each column once. -/
abbrev Schema := List (String × ValueType)

/-- The schema in which a column has the given type, whatever it had before. -/
def Schema.put : Schema → String → ValueType → Schema
  | [], column, valueType => [(column, valueType)]
  | (name, other) :: rest, column, valueType =>
    if name = column then (column, valueType) :: rest
    else (name, other) :: Schema.put rest column valueType

/-- A query that depends on no dialect. -/
structure QueryScript where
  sourceId : String
  script : String
  vars : List ScriptVariable
  schema : Option Schema
deriving DecidableEq

namespace QueryScript

/-- A script of text alone. -/
def ofText (script : String) : QueryScript :=
  ⟨"", script, [], none⟩

/-- The script with one more variable. -/
def addVariable (s : QueryScript) (v : ScriptVariable) : QueryScript :=
  { s with vars := s.vars ++ [v] }

/-- The script with the type of a column declared. -/
def declareType (s : QueryScript) (column : String) (valueType : ValueType) : QueryScript :=
  { s with schema := some ((s.schema.getD []).put column valueType) }

/-- The first variable with a name. -/
def findVariable? (s : QueryScript) (name : String) : Option ScriptVariable :=
  s.vars.find? fun v => v.name == name

/-- The type a column is declared to have. -/
def declaredType? (s : QueryScript) (column : String) : Option ValueType :=
  s.schema.bind fun schema => schema.lookup column

/-- A text in UTF-8. -/
def utf8 (s : String) : List UInt8 :=
  s.toList.flatMap String.utf8EncodeChar

/-- The bytes of a variable in the key of its script. -/
def variableBytes (v : ScriptVariable) : List UInt8 :=
  0x1E :: (utf8 v.name ++ utf8 v.valueType.name ++ v.values.flatMap fun value => 0x1F :: utf8 value)

/-- The bytes a script's key is the checksum of. -/
def keyBytes (s : QueryScript) : List UInt8 :=
  utf8 s.sourceId ++ 0x1F :: (utf8 s.script ++ s.vars.flatMap variableBytes)

/-- The key of a script: `Q` and eight hexadecimal digits. -/
def key (s : QueryScript) : String :=
  String.ofList ('Q' :: Checksum.hex8 (Checksum.crc32 s.keyBytes))

end QueryScript

end PagedQuery
