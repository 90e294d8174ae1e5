/-
# Variables on a command line

A variable is written `name=type:value`, or `name=value` for a string.  What
stands before the first colon is a type only if it names one: `at=12:30` is the
string `12:30`.  A name that is written again adds values to its variable, which
keeps the type it had first.
-/

import PagedQuery.Script.Basic
import PagedQuery.Text.Blank

namespace PagedQuery
namespace CommandLine

/-- Why an argument is no variable. -/
inductive VariableError
  /-- There is no equals sign. -/
  | noValue (argument : String)
  /-- There is no name before it. -/
  | noName (argument : String)
deriving DecidableEq

/-- What a user is told about an argument that is no variable. -/
def VariableError.message : VariableError → String
  | noValue argument => "Expected name=type:value, got '" ++ argument ++ "'"
  | noName argument => "Variable name missing in '" ++ argument ++ "'"

/-- What stands before and after the first occurrence of a character. -/
def splitFirst? (mark : Char) (cs : List Char) : Option (List Char × List Char) :=
  match cs.dropWhile (· != mark) with
  | [] => none
  | _ :: rest => some (cs.takeWhile (· != mark), rest)

/-- The type and the value of what stands after the equals sign. -/
def typedValue (cs : List Char) : ValueType × List Char :=
  match splitFirst? ':' cs with
  | some (word, value) =>
    match ValueType.ofWord? word with
    | some valueType => (valueType, value)
    | none => (.string, cs)
  | none => (.string, cs)

/-- The variable an argument denotes. -/
def readVariable (argument : String) : Except VariableError ScriptVariable :=
  match splitFirst? '=' argument.toList with
  | none => .error (.noValue argument)
  | some (name, rest) =>
    if (Text.trim name).isEmpty then .error (.noName argument)
    else
      let (valueType, value) := typedValue rest
      .ok ⟨String.ofList (Text.trim name), valueType, [String.ofList value]⟩

/-- Variables with the values of one more: in the variable of its name, or at the
end. -/
def addVariable (v : ScriptVariable) : List ScriptVariable → List ScriptVariable
  | [] => [v]
  | other :: vs =>
    if other.name = v.name then { other with values := other.values ++ v.values } :: vs
    else other :: addVariable v vs

/-- Variables in which each name stands once, in the order they were first written. -/
def mergeVariables (vs : List ScriptVariable) : List ScriptVariable :=
  vs.foldl (fun merged v => addVariable v merged) []

end CommandLine
end PagedQuery
