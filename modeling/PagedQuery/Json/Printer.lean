/-
# Writing JSON

A value is written in one of two ways: `compact`, without blanks, or `pretty`, with one item or
member on a line and two spaces for each level, where an empty array or object stays on one line.

In a string the quote, the backslash and control characters below the space are escaped and
nothing else is, so the text of a string is mostly the string itself.  What has no JSON form, a
number that is not finite, is written `null`.
-/

import PagedQuery.Decimal.Layout
import PagedQuery.Json.Value

namespace PagedQuery
namespace Json

open Decimal

/-- The character of a hexadecimal digit, in lower case. -/
def hexChar (n : Nat) : Char :=
  if n < 10 then Char.ofNat (48 + n) else Char.ofNat (87 + n)

/-- A character inside a string. -/
def escapeChar (c : Char) : List Char :=
  if c = '"' then ['\\', '"']
  else if c = '\\' then ['\\', '\\']
  else if c = '\x08' then ['\\', 'b']
  else if c = '\t' then ['\\', 't']
  else if c = '\n' then ['\\', 'n']
  else if c = '\x0c' then ['\\', 'f']
  else if c = '\r' then ['\\', 'r']
  else if c.toNat < 0x20 then
    ['\\', 'u', '0', '0', hexChar (c.toNat / 16), hexChar (c.toNat % 16)]
  else [c]

/-- A string in quotes. -/
def quoted (s : String) : List Char :=
  '"' :: (s.toList.flatMap escapeChar ++ ['"'])

mutual

/-- A value without blanks. -/
def compact : Json → List Char
  | .null => "null".toList
  | .boolean true => "true".toList
  | .boolean false => "false".toList
  | .integer i => intDigits i
  | .real x => Layout.json.number x
  | .text s => quoted s
  | .array [] => ['[', ']']
  | .array (item :: items) => '[' :: (compact item ++ compactItems items)
  | .object [] => ['\x7b', '\x7d']
  | .object ((name, value) :: members) =>
    '\x7b' :: (quoted name ++ ':' :: (compact value ++ compactMembers members))
  | .unrepresentable => "null".toList

/-- The items of an array after its first one, and the closing bracket. -/
def compactItems : List Json → List Char
  | [] => [']']
  | item :: items => ',' :: (compact item ++ compactItems items)

/-- The members of an object after its first one, and the closing brace. -/
def compactMembers : List (String × Json) → List Char
  | [] => ['\x7d']
  | (name, value) :: members =>
    ',' :: (quoted name ++ ':' :: (compact value ++ compactMembers members))

end

/-- A new line at a level of nesting. -/
def newLine (level : Nat) : List Char :=
  '\n' :: List.replicate (2 * level) ' '

mutual

/-- A value at a level of nesting, with its parts on lines of their own. -/
def prettyAt (level : Nat) : Json → List Char
  | .array [] => ['[', ']']
  | .array (item :: items) =>
    '[' :: (newLine (level + 1) ++ prettyAt (level + 1) item ++ prettyItems level items)
  | .object [] => ['\x7b', '\x7d']
  | .object ((name, value) :: members) =>
    '\x7b' :: (newLine (level + 1) ++ quoted name ++ ": ".toList ++ prettyAt (level + 1) value ++
      prettyMembers level members)
  | other => compact other

/-- The items of an array after its first one, and the closing bracket. -/
def prettyItems (level : Nat) : List Json → List Char
  | [] => newLine level ++ [']']
  | item :: items =>
    ',' :: (newLine (level + 1) ++ prettyAt (level + 1) item ++ prettyItems level items)

/-- The members of an object after its first one, and the closing brace. -/
def prettyMembers (level : Nat) : List (String × Json) → List Char
  | [] => newLine level ++ ['\x7d']
  | (name, value) :: members =>
    ',' :: (newLine (level + 1) ++ quoted name ++ ": ".toList ++ prettyAt (level + 1) value ++
      prettyMembers level members)

end

/-- A value as a text without blanks. -/
def print (value : Json) : String :=
  String.ofList value.compact

/-- A value as a text with its parts on lines of their own. -/
def printPretty (value : Json) : String :=
  String.ofList (value.prettyAt 0)

end Json
end PagedQuery
