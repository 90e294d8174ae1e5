/-
# Reading JSON

A reader of RFC 8259: blanks are space, tab, line feed and carriage return,
control characters do not stand in strings, and nothing follows the value.

A number without fraction and exponent that fits a 64-bit word is an integer,
except for minus zero.  Any other number is the significand, cut off where it
would leave 64 bits, times or divided by a power of ten, with each of the two
steps rounded; one that is too large is infinite.
-/

import PagedQuery.Decimal.Reader
import PagedQuery.Json.Value

namespace PagedQuery
namespace Json

open Decimal

/-- Whether a character may stand between the parts of a text. -/
def isSpace (c : Char) : Bool :=
  c == ' ' || c == '\t' || c == '\n' || c == '\r'

/-- A text without the blanks it starts with. -/
def skipSpace (cs : List Char) : List Char :=
  cs.dropWhile isSpace

/-! ### Strings -/

/-- The value of a hexadecimal digit in either case. -/
def hexValue? (c : Char) : Option Nat :=
  if '0' ≤ c ∧ c ≤ '9' then some (c.toNat - 48)
  else if 'a' ≤ c ∧ c ≤ 'f' then some (c.toNat - 87)
  else if 'A' ≤ c ∧ c ≤ 'F' then some (c.toNat - 55)
  else none

/-- The number of four hexadecimal digits. -/
def hex4? (a b c d : Char) : Option Nat := do
  let a ← hexValue? a
  let b ← hexValue? b
  let c ← hexValue? c
  let d ← hexValue? d
  return ((a * 16 + b) * 16 + c) * 16 + d

/-- The character of an escape of one letter. -/
def escaped? (c : Char) : Option Char :=
  match c with
  | '"' => some '"'
  | '\\' => some '\\'
  | '/' => some '/'
  | 'b' => some '\x08'
  | 'f' => some '\x0c'
  | 'n' => some '\n'
  | 'r' => some '\r'
  | 't' => some '\t'
  | _ => none

/-- Whether a UTF-16 unit is the first half of a pair. -/
def isHighSurrogate (n : Nat) : Bool :=
  0xD800 ≤ n && n < 0xDC00

/-- Whether a UTF-16 unit is the second half of a pair. -/
def isLowSurrogate (n : Nat) : Bool :=
  0xDC00 ≤ n && n < 0xE000

/-- The character of a surrogate pair. -/
def pairedChar (high low : Nat) : Char :=
  Char.ofNat (0x10000 + (high - 0xD800) * 0x400 + (low - 0xDC00))

/-- What was read of a string, with a character before it. -/
def withChar (c : Char) : Option (List Char) × List Char → Option (List Char) × List Char
  | (cs, rest) => (cs.map (c :: ·), rest)

/-- What was read of a string, with half a pair before it. -/
def withHalf : Option (List Char) × List Char → Option (List Char) × List Char
  | (_, rest) => (none, rest)

/-- The second half of a pair that a text starts with. -/
def lowHalf? : List Char → Option Nat
  | '\\' :: 'u' :: a :: b :: c :: d :: _ => (hex4? a b c d).filter isLowSurrogate
  | _ => none

/-- A string after its opening quote: its characters, or `none` if it holds half of a
surrogate pair, and what follows its closing quote. -/
def readString? : List Char → Option (Option (List Char) × List Char)
  | [] => none
  | '"' :: cs => some (some [], cs)
  | '\\' :: 'u' :: a :: b :: c :: d :: cs => do
    let n ← hex4? a b c d
    if isHighSurrogate n then
      match lowHalf? cs, cs with
      | some low, _ :: _ :: _ :: _ :: _ :: _ :: cs =>
        (readString? cs).map (withChar (pairedChar n low))
      | _, cs => (readString? cs).map withHalf
    else if isLowSurrogate n then (readString? cs).map withHalf
    else (readString? cs).map (withChar (Char.ofNat n))
  | '\\' :: e :: cs => do
    let c ← escaped? e
    (readString? cs).map (withChar c)
  | ['\\'] => none
  | c :: cs => if c.toNat < 0x20 then none else (readString? cs).map (withChar c)

/-! ### Numbers -/

/-- Digits added to a significand as long as it stays below `2 ^ 64`, and the digits
left over. -/
def addDigits (significand : Nat) : List Char → Nat × List Char
  | [] => (significand, [])
  | d :: ds =>
    let more := significand * 10 + digitValue d
    if more < UInt64.size then addDigits more ds else (significand, d :: ds)

/-- The magnitude of a power of ten up to `10 ^ 308`. -/
def powerMagnitude (n : Nat) : Option Magnitude :=
  Magnitude.nearest? (Nat.pow 10 n) 1

/-- A magnitude divided by `10 ^ 308` again and again, until it is zero. -/
def divideLargest (x : Magnitude) : (times : Nat) → Option Magnitude
  | 0 => some x
  | times + 1 =>
    if x.significand = 0 then some x
    else
      match (powerMagnitude 308).bind x.div? with
      | some y => divideLargest y times
      | none => none

/-- A magnitude divided by a power of ten, by at most `10 ^ 308` at a time. -/
def dividePower (x : Magnitude) (n : Nat) : Option Magnitude :=
  let times := (n - 1) / 308
  (divideLargest x times).bind fun y => (powerMagnitude (n - 308 * times)).bind y.div?

/-- A magnitude times a power of ten; `none` when it is too large. -/
def scalePower (x : Magnitude) (exponent : Int) : Option Magnitude :=
  if exponent < 0 then dividePower x exponent.natAbs
  else if exponent ≤ 308 then (powerMagnitude exponent.toNat).bind x.mul?
  else if x.significand = 0 then some x
  else none

/-- The number of a whole part, a fraction and an exponent. -/
def decimalValue (negative : Bool) (whole fraction : List Char) (exponent : Int) : Binary64 :=
  let (significand, dropped) := addDigits 0 whole
  let (significand, unused) := addDigits significand fraction
  let places : Int := dropped.length - (fraction.length - unused.length : Nat) + exponent
  .ofMagnitude? negative ((Magnitude.ofNat? significand).bind fun x => scalePower x places)

/-- The value of a number without fraction and exponent. -/
def integerValue (negative : Bool) (whole : List Char) : Json :=
  let n := ofDigits whole
  if negative then
    if n ≠ 0 ∧ Int64.minValue.toInt ≤ -n then .integer (-n)
    else .real (decimalValue true whole [] 0)
  else
    if n < UInt64.size then .integer n else .real (decimalValue false whole [] 0)

/-- A whole part: one zero, or digits that do not start with one. -/
def readWhole? (cs : List Char) : Option (List Char × List Char) :=
  match spanDigits cs with
  | ([], _) => none
  | ('0' :: _ :: _, _) => none
  | (whole, rest) => some (whole, rest)

/-- A fraction: a point and digits, or nothing. -/
def readFraction? : List Char → Option (Option (List Char) × List Char)
  | '.' :: cs =>
    match spanDigits cs with
    | ([], _) => none
    | (fraction, rest) => some (some fraction, rest)
  | cs => some (none, cs)

/-- An exponent: a letter, a sign or none, and digits; or nothing. -/
def readExponent? : List Char → Option (Option Int × List Char)
  | [] => some (none, [])
  | e :: cs =>
    if e = 'e' ∨ e = 'E' then
      let (negative, body) := spanSign cs
      match spanDigits body with
      | ([], _) => none
      | (ds, rest) => some (some (if negative then -(ofDigits ds : Int) else ofDigits ds), rest)
    else some (none, e :: cs)

/-- A number. -/
def readNumber? (cs : List Char) : Option (Json × List Char) := do
  let (negative, body) := match cs with
    | '-' :: cs => (true, cs)
    | cs => (false, cs)
  let (whole, rest) ← readWhole? body
  let (fraction, rest) ← readFraction? rest
  let (exponent, rest) ← readExponent? rest
  if fraction.isNone && exponent.isNone then return (integerValue negative whole, rest)
  else return (.real (decimalValue negative whole (fraction.getD []) (exponent.getD 0)), rest)

/-! ### Values -/

/-- A string value, and what follows it. -/
def stringValue : Option (List Char) × List Char → Json × List Char
  | (some cs, rest) => (.text (String.ofList cs), rest)
  | (none, rest) => (.unrepresentable, rest)

/-- An object with one more member in front, `none` standing for a name or an object
that is not representable. -/
def consMember (name : Option (List Char)) (value : Json) :
    Option (List (String × Json)) → Option (List (String × Json))
  | some members => name.map fun cs => (String.ofList cs, value) :: members
  | none => none

/-- The object of members. -/
def objectValue : Option (List (String × Json)) → Json
  | some members => .object members
  | none => .unrepresentable

mutual

/-- A value and what follows it.  Every value takes one step of fuel and at least one
character. -/
def readValue? : (fuel : Nat) → List Char → Option (Json × List Char)
  | 0, _ => none
  | fuel + 1, cs =>
    match skipSpace cs with
    | 'n' :: 'u' :: 'l' :: 'l' :: rest => some (.null, rest)
    | 't' :: 'r' :: 'u' :: 'e' :: rest => some (.boolean true, rest)
    | 'f' :: 'a' :: 'l' :: 's' :: 'e' :: rest => some (.boolean false, rest)
    | '"' :: rest => (readString? rest).map stringValue
    | '[' :: rest =>
      match skipSpace rest with
      | ']' :: rest => some (.array [], rest)
      | rest => (readItems? fuel rest).map fun (items, rest) => (.array items, rest)
    | '\x7b' :: rest =>
      match skipSpace rest with
      | '\x7d' :: rest => some (.object [], rest)
      | rest => (readMembers? fuel rest).map fun (members, rest) => (objectValue members, rest)
    | rest => readNumber? rest

/-- The items of an array that has some, and what follows its closing bracket. -/
def readItems? : (fuel : Nat) → List Char → Option (List Json × List Char)
  | 0, _ => none
  | fuel + 1, cs => do
    let (item, rest) ← readValue? fuel cs
    match skipSpace rest with
    | ',' :: rest =>
      let (items, rest) ← readItems? fuel rest
      return (item :: items, rest)
    | ']' :: rest => return ([item], rest)
    | _ => none

/-- The members of an object that has some, and what follows its closing brace. -/
def readMembers? : (fuel : Nat) → List Char → Option (Option (List (String × Json)) × List Char)
  | 0, _ => none
  | fuel + 1, cs =>
    match skipSpace cs with
    | '"' :: rest => do
      let (name, rest) ← readString? rest
      match skipSpace rest with
      | ':' :: rest =>
        let (value, rest) ← readValue? fuel rest
        match skipSpace rest with
        | ',' :: rest =>
          let (members, rest) ← readMembers? fuel rest
          return (consMember name value members, rest)
        | '\x7d' :: rest => return (consMember name value (some []), rest)
        | _ => none
      | _ => none
    | _ => none

end

/-- The value a text denotes, as characters. -/
def readChars? (cs : List Char) : Option Json :=
  match readValue? (2 * cs.length + 2) cs with
  | some (value, rest) => if (skipSpace rest).isEmpty then some value else none
  | none => none

/-- The value a text denotes. -/
def read? (text : String) : Option Json :=
  readChars? text.toList

end Json
end PagedQuery
