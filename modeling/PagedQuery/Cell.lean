/-
# Cells

A single value, exactly as a driver produced it; the type of its column never
changes it.

| cell | shown as | counts |
| --- | --- | --- |
| `null` | `NULL` | no |
| `integer` | its numeral | when it is not negative |
| `real` | its shortest decimal, never an exponent | when it is a natural number |
| `text` | itself | when it is a numeral |
| `boolean` | `true`, `false` | no |
| `timestamp` | `2024-01-31 08:30:00` | no |
| `blob` | `<3 bytes>` | no |
-/

import PagedQuery.Decimal.Layout
import PagedQuery.Timestamp

namespace PagedQuery

open Decimal

/-- A single value. -/
inductive Cell
  | null
  | integer (value : Int64)
  | real (value : Binary64)
  | text (value : String)
  | boolean (value : Bool)
  | timestamp (value : Timestamp)
  | blob (bytes : List UInt8)
deriving DecidableEq

namespace Cell

/-- Whether a cell is empty. -/
def isNull : Cell → Bool
  | null => true
  | _ => false

/-- The row count a cell denotes.  Drivers report counts as integers, as whole reals
or as numerals; a real beyond the largest count stands for the largest. -/
def asCount? : Cell → Option UInt64
  | integer i => if 0 ≤ i.toInt then some (UInt64.ofNat i.toInt.toNat) else none
  | real x => x.toNat?.map fun n => UInt64.ofNat (min n (UInt64.size - 1))
  | text s => (readNat? UInt64.size (Text.trim s.toList)).map UInt64.ofNat
  | _ => none

/-- The text of a text cell. -/
def asText? : Cell → Option String
  | text s => some s
  | _ => none

/-- The number of an integer cell. -/
def asInteger? : Cell → Option Int64
  | integer i => some i
  | _ => none

/-- What a table shows in place of a cell. -/
def display : Cell → String
  | null => "NULL"
  | integer i => String.ofList (intDigits i.toInt)
  | real x => String.ofList (Layout.plain.number x)
  | text s => s
  | boolean b => if b then "true" else "false"
  | timestamp t => String.ofList t.text
  | blob bytes => "<" ++ numeral bytes.length ++ " bytes>"

end Cell

end PagedQuery
