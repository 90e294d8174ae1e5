/-
# SQL literals

The SQL text of a typed value in a dialect.

| type | text | refused |
| --- | --- | --- |
| `string` | quoted | |
| `numeric` | the value without blanks around it | what is no numeric literal |
| `boolean` | `TRUE` for `true` in any case, else `FALSE` | |
| `date` | a timestamp literal to the second | what is no timestamp |
| `fragment` | the value itself | |
| `identifier` | quoted as an identifier | |
| `keyword`, `snippet` | | always |
-/

import PagedQuery.Dialect.Basic
import PagedQuery.Failure
import PagedQuery.Script.Basic
import PagedQuery.Text.DecimalDigit
import PagedQuery.Timestamp

namespace PagedQuery
namespace Literal

/-- A text without the sign it may start with. -/
def dropSign : List Char → List Char
  | '+' :: cs => cs
  | '-' :: cs => cs
  | cs => cs

/-- The text after the whole part and the fraction of a number, if it starts with
one: digits with an optional point and digits, or a point and digits. -/
def afterMantissa? (cs : List Char) : Option (List Char) :=
  let rest := cs.dropWhile Text.isDecimalDigit
  let hasWhole := (cs.head?.map Text.isDecimalDigit).getD false
  match rest with
  | '.' :: fraction =>
    if hasWhole || (fraction.head?.map Text.isDecimalDigit).getD false then
      some (fraction.dropWhile Text.isDecimalDigit)
    else none
  | _ => if hasWhole then some rest else none

/-- Whether a text is nothing or an exponent. -/
def isExponent : List Char → Bool
  | [] => true
  | e :: cs =>
    let ds := dropSign cs
    (e == 'e' || e == 'E') && !ds.isEmpty && ds.all Text.isDecimalDigit

/-- Whether a text is a number: an optional sign, a mantissa and an optional
exponent. -/
def isNumeric (cs : List Char) : Bool :=
  match afterMantissa? (dropSign cs) with
  | some rest => isExponent rest
  | none => false

/-- Whether a value counts as true. -/
def isTrue (value : List Char) : Bool :=
  (Text.trim value).map Char.toLower == "true".toList

/-- A timestamp literal. -/
def timestamp (d : Dialect) (t : Timestamp) : List Char :=
  match d.timestampStyle with
  | .typed => "TIMESTAMP '".toList ++ (t.text ++ ['\''])
  | .plain => '\'' :: (t.text ++ ['\''])

/-- The SQL text of a value. -/
def render (d : Dialect) (valueType : ValueType) (value : List Char) :
    Except Failure (List Char) :=
  match valueType with
  | .string => .ok (d.quoteString value)
  | .numeric =>
    if isNumeric (Text.trim value) then .ok (Text.trim value)
    else .error (.render ("'" ++ String.ofList value ++ "' is not a numeric literal"))
  | .boolean => .ok (if isTrue value then "TRUE".toList else "FALSE".toList)
  | .date =>
    match Timestamp.read? value with
    | some t => .ok (timestamp d t)
    | none => .error (.render ("'" ++ String.ofList value ++ "' is not a valid timestamp"))
  | .fragment => .ok value
  | .identifier => .ok (d.quoteIdentifier value)
  | .keyword | .snippet => .error (.render ("unsupported value type " ++ valueType.name))

end Literal

namespace ScriptVariable

/-- A failure of rendering, with the variable it is about. -/
def blame (v : ScriptVariable) : Failure → Failure
  | .render m => .render ("variable '" ++ v.name ++ "': " ++ m)
  | other => other

/-- The SQL text of a variable: `NULL` when it has no value, and its values separated
by commas when it has some. -/
def render (d : Dialect) (v : ScriptVariable) : Except Failure (List Char) :=
  if v.valueType = .keyword ∨ v.valueType = .snippet then
    .error (.render
      ("unsupported type " ++ v.valueType.name ++ " for variable '" ++ v.name ++ "'"))
  else if v.values.isEmpty then .ok "NULL".toList
  else
    match v.values.mapM fun value => Literal.render d v.valueType value.toList with
    | .ok texts => .ok (Text.joinWith ", " texts)
    | .error e => .error (v.blame e)

end ScriptVariable

end PagedQuery
