/-
# Timestamps

A date of the Gregorian calendar and a time of day, without a zone.  Second 60 is a leap second
and is accepted in any minute.

A timestamp is read from one of four formats, tried in this order: date, time and fraction with a
blank between date and time, as in `2024-01-31 08:30:00.25`; the same with a `T` in between; date,
hour and minute, as in `2024-01-31 08:30`; and a date alone, which is midnight.  A blank in a
format stands for any number of blanks, also none, and every number field may follow blanks.  The
formats exclude one another all the same, so which is tried first does not matter.

It is written with a blank to the second (`text`) or with a `T` and as many groups of three
fraction digits as needed (`isoText`).
-/

import PagedQuery.Text.Blank
import PagedQuery.Decimal.Reader

namespace PagedQuery

open Decimal

/-- Whether a year has a 29th of February. -/
def isLeapYear (year : Int) : Bool :=
  year % 4 == 0 && (year % 100 != 0 || year % 400 == 0)

/-- The number of days of a month, January being 1. -/
def daysInMonth (year : Int) (month : Nat) : Nat :=
  if month = 2 then (if isLeapYear year then 29 else 28)
  else if month = 4 ∨ month = 6 ∨ month = 9 ∨ month = 11 then 30
  else 31

/-- A date and a time of day. -/
structure Timestamp where
  year : Int
  month : Nat
  day : Nat
  hour : Nat
  minute : Nat
  second : Nat
  nanosecond : Nat
  valid : (-262143 ≤ year ∧ year ≤ 262142) ∧ (1 ≤ month ∧ month ≤ 12) ∧
    (1 ≤ day ∧ day ≤ daysInMonth year month) ∧ hour < 24 ∧ minute < 60 ∧ second ≤ 60 ∧
    nanosecond < 1000000000
deriving DecidableEq

namespace Timestamp

/-- The fields read so far; those that a format leaves out are zero. -/
structure Fields where
  year : Int
  month : Nat
  day : Nat
  hour : Nat
  minute : Nat
  second : Nat
  nanosecond : Nat

/-- No field read yet. -/
def Fields.none : Fields :=
  ⟨0, 0, 0, 0, 0, 0, 0⟩

/-- The timestamp with the given fields, if there is one. -/
def ofFields? (f : Fields) : Option Timestamp :=
  if h : (-262143 ≤ f.year ∧ f.year ≤ 262142) ∧ (1 ≤ f.month ∧ f.month ≤ 12) ∧
      (1 ≤ f.day ∧ f.day ≤ daysInMonth f.year f.month) ∧ f.hour < 24 ∧ f.minute < 60 ∧
      f.second ≤ 60 ∧ f.nanosecond < 1000000000 then
    some ⟨f.year, f.month, f.day, f.hour, f.minute, f.second, f.nanosecond, h⟩
  else
    Option.none

/-- One part of a format. -/
inductive Part
  | year
  | month
  | day
  | hour
  | minute
  | second
  /-- A point and digits, or nothing. -/
  | fraction
  /-- Any number of blanks, also none. -/
  | blanks
  /-- This character. -/
  | mark (c : Char)
deriving DecidableEq

/-- The formats a timestamp is read from, in the order they are tried. -/
def formats : List (List Part) :=
  let date := [.year, .mark '-', .month, .mark '-', .day]
  let time := [.hour, .mark ':', .minute, .mark ':', .second, .fraction]
  [date ++ .blanks :: time,
   date ++ .mark 'T' :: time,
   date ++ [.blanks, .hour, .mark ':', .minute],
   date]

/-- Up to `most` digits at the start of a text, at least one, and what follows. -/
def readDigits? (most : Nat) (cs : List Char) : Option (List Char × List Char) :=
  let ds := (cs.takeWhile Char.isDigit).take most
  if ds.isEmpty then Option.none else some (ds, cs.drop ds.length)

/-- A number of up to two digits after any blanks. -/
def readNumber? (cs : List Char) : Option (Nat × List Char) :=
  (readDigits? 2 (Text.trimStart cs)).map fun (ds, rest) => (ofDigits ds, rest)

/-- A year after any blanks: up to four digits, or any number of them after a sign. -/
def readYear? (cs : List Char) : Option (Int × List Char) :=
  match Text.trimStart cs with
  | '-' :: cs => (readDigits? cs.length cs).map fun (ds, rest) => (-(ofDigits ds : Int), rest)
  | '+' :: cs => (readDigits? cs.length cs).map fun (ds, rest) => ((ofDigits ds : Int), rest)
  | cs => (readDigits? 4 cs).map fun (ds, rest) => ((ofDigits ds : Int), rest)

/-- The nanoseconds that fraction digits denote; digits after the ninth are dropped. -/
def nanoseconds (ds : List Char) : Nat :=
  ofDigits (ds.take 9) * Nat.pow 10 (9 - ds.length)

/-- A fraction if the text starts with a point, zero if it does not. -/
def readFraction? : List Char → Option (Nat × List Char)
  | '.' :: cs => (readDigits? cs.length cs).map fun (ds, rest) => (nanoseconds ds, rest)
  | cs => some (0, cs)

/-- The fields of a text that matches all parts of a format and ends there. -/
def readParts : List Part → Fields → List Char → Option Fields
  | [], f, [] => some f
  | [], _, _ :: _ => Option.none
  | .year :: ps, f, cs => do
    let (n, rest) ← readYear? cs
    readParts ps { f with year := n } rest
  | .month :: ps, f, cs => do
    let (n, rest) ← readNumber? cs
    readParts ps { f with month := n } rest
  | .day :: ps, f, cs => do
    let (n, rest) ← readNumber? cs
    readParts ps { f with day := n } rest
  | .hour :: ps, f, cs => do
    let (n, rest) ← readNumber? cs
    readParts ps { f with hour := n } rest
  | .minute :: ps, f, cs => do
    let (n, rest) ← readNumber? cs
    readParts ps { f with minute := n } rest
  | .second :: ps, f, cs => do
    let (n, rest) ← readNumber? cs
    readParts ps { f with second := n } rest
  | .fraction :: ps, f, cs => do
    let (n, rest) ← readFraction? cs
    readParts ps { f with nanosecond := n } rest
  | .blanks :: ps, f, cs => readParts ps f (Text.trimStart cs)
  | .mark _ :: _, _, [] => Option.none
  | .mark m :: ps, f, c :: cs => if c = m then readParts ps f cs else Option.none

/-- The timestamp a text denotes in one format. -/
def readFormat? (format : List Part) (cs : List Char) : Option Timestamp :=
  (readParts format .none cs).bind ofFields?

/-- The timestamp a text denotes in the first of the formats that fits, blanks
around it not counting. -/
def read? (cs : List Char) : Option Timestamp :=
  formats.findSome? fun format => readFormat? format (Text.trim cs)

/-- The numeral of a number, filled up with zeros to at least `width` digits. -/
def padded (width n : Nat) : List Char :=
  let ds := digits n
  List.replicate (width - ds.length) '0' ++ ds

/-- A year: four digits, with a sign when it is negative or above 9999. -/
def yearText (year : Int) : List Char :=
  if year < 0 then '-' :: padded 4 year.natAbs
  else if 9999 < year then '+' :: padded 4 year.natAbs
  else padded 4 year.natAbs

/-- The date of a timestamp, year first. -/
def dateText (t : Timestamp) : List Char :=
  yearText t.year ++ '-' :: (padded 2 t.month ++ '-' :: padded 2 t.day)

/-- The time of day of a timestamp, to the second. -/
def timeText (t : Timestamp) : List Char :=
  padded 2 t.hour ++ ':' :: (padded 2 t.minute ++ ':' :: padded 2 t.second)

/-- A timestamp as `2024-01-31 08:30:00`. -/
def text (t : Timestamp) : List Char :=
  t.dateText ++ ' ' :: t.timeText

/-- The fraction of the second: nothing, or three, six or nine digits after a point. -/
def fractionText (t : Timestamp) : List Char :=
  if t.nanosecond = 0 then []
  else if t.nanosecond % 1000000 = 0 then '.' :: padded 3 (t.nanosecond / 1000000)
  else if t.nanosecond % 1000 = 0 then '.' :: padded 6 (t.nanosecond / 1000)
  else '.' :: padded 9 t.nanosecond

/-- A timestamp as `2024-01-31T08:30:00.250`. -/
def isoText (t : Timestamp) : List Char :=
  t.dateText ++ 'T' :: (t.timeText ++ t.fractionText)

end Timestamp

end PagedQuery
