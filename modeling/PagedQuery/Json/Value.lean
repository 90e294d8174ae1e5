/-
# JSON values

Integers that fit a 64-bit word, signed or not, are kept apart from all other
numbers.  The members of an object keep their order and may repeat a name: what a
repetition means is up to whoever reads the object.

A text can be well formed and still denote nothing, namely a string with half of
a surrogate pair, or an object with such a name: `unrepresentable`.
-/

import PagedQuery.Decimal.Binary64

namespace PagedQuery

/-- A JSON value. -/
inductive Json
  | null
  | boolean (value : Bool)
  | integer (value : Int)
  | real (value : Decimal.Binary64)
  | text (value : String)
  | array (items : List Json)
  | object (members : List (String × Json))
  | unrepresentable

namespace Json

/-- A 64-bit word. -/
def word (n : UInt64) : Json :=
  .integer n.toNat

/-- A value that may be missing; a missing one is `null`. -/
def nullable {α : Type} (encode : α → Json) : Option α → Json
  | some a => encode a
  | none => .null

/-- A member that is left out when it has no value. -/
def optionalMember (name : String) : Option String → List (String × Json)
  | some value => [(name, .text value)]
  | none => []

/-- A member put into its place among members sorted by name; an earlier member of
the name is replaced. -/
def insertMember (name : String) (value : Json) : List (String × Json) → List (String × Json)
  | [] => [(name, value)]
  | (other, kept) :: members =>
    if name = other then (name, value) :: members
    else if name < other then (name, value) :: (other, kept) :: members
    else (other, kept) :: insertMember name value members

mutual

/-- The value with the members of every object sorted by name; of those with one name
the last stays. -/
def sorted : Json → Json
  | .array items => .array (sortedItems items)
  | .object members => .object (sortedMembers [] members)
  | other => other

/-- The items of an array, each sorted. -/
def sortedItems : List Json → List Json
  | [] => []
  | item :: items => sorted item :: sortedItems items

/-- Members sorted among those sorted before. -/
def sortedMembers (done : List (String × Json)) : List (String × Json) → List (String × Json)
  | [] => done
  | (name, value) :: members => sortedMembers (insertMember name (sorted value) done) members

end

end Json

end PagedQuery
