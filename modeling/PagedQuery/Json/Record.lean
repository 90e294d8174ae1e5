/-
# Records in JSON

A record is written as an object and read from an object or from an array of its
fields in order.

| field | not in the object | array too short | `null` |
| --- | --- | --- | --- |
| `required` | refused | refused | up to its type |
| `optional` | no value | refused | no value |
| `defaulted` | the default | the default | up to its type |

Members that are no field are passed over; a field that is there twice, or an
array with too many items, is refused.  A value of an enumeration is written as
its name and read from its name or from an object with its name for a single
member that is `null`.
-/

import PagedQuery.Json.Value

namespace PagedQuery
namespace Json

/-- What a record's text says of a field. -/
inductive Slot
  | given (value : Json)
  /-- The object does not have it. -/
  | absent
  /-- The array ends before it. -/
  | cutOff

/-- Whether any of the names stands twice among the members. -/
def repeats (names : List String) (members : List (String × Json)) : Bool :=
  names.any fun name => decide (2 ≤ members.countP fun member => member.1 == name)

/-- What a value says of the fields of a record, given their names in order. -/
def slots? (names : List String) : Json → Option (String → Slot)
  | .object members =>
    if repeats names members then none
    else some fun name =>
      match members.lookup name with
      | some value => .given value
      | none => .absent
  | .array items =>
    if names.length < items.length then none
    else some fun name =>
      match items[names.idxOf name]? with
      | some value => .given value
      | none => .cutOff
  | _ => none

namespace Slot

variable {α : Type}

/-- A field that has to be there. -/
def required (decode : Json → Option α) : Slot → Option α
  | given value => decode value
  | _ => none

/-- A field that may be missing from an object. -/
def optional (decode : Json → Option α) : Slot → Option (Option α)
  | given .null => some none
  | given value => (decode value).map some
  | absent => some none
  | cutOff => none

/-- A field with a value for where it is missing. -/
def defaulted (default : α) (decode : Json → Option α) : Slot → Option α
  | given value => decode value
  | _ => some default

end Slot

/-- A string. -/
def text? : Json → Option String
  | .text s => some s
  | _ => none

/-- A truth value. -/
def boolean? : Json → Option Bool
  | .boolean b => some b
  | _ => none

/-- A word of 64 bits. -/
def word? : Json → Option UInt64
  | .integer i => if 0 ≤ i ∧ i < UInt64.size then some (UInt64.ofNat i.toNat) else none
  | _ => none

/-- A byte. -/
def byte? : Json → Option UInt8
  | .integer i => if 0 ≤ i ∧ i < UInt8.size then some (UInt8.ofNat i.toNat) else none
  | _ => none

/-- A string of one character. -/
def char? : Json → Option Char
  | .text s =>
    match s.toList with
    | [c] => some c
    | _ => none
  | _ => none

/-- An array of values of one kind. -/
def list? {α : Type} (decode : Json → Option α) : Json → Option (List α)
  | .array items => items.mapM decode
  | _ => none

/-- A value that may be `null`. -/
def nullable? {α : Type} (decode : Json → Option α) : Json → Option (Option α)
  | .null => some none
  | value => (decode value).map some

/-- A value of an enumeration, given what its names stand for. -/
def named? {α : Type} (ofName? : String → Option α) : Json → Option α
  | .text name => ofName? name
  | .object [(name, .null)] => ofName? name
  | _ => none

end Json
end PagedQuery
