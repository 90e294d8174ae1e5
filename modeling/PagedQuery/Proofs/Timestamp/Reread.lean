/-
# Timestamps read back

The text of a timestamp is read as the timestamp it was written for, without the fraction of its
second (`read?_text`).  Every part of it is read up to where the next one begins.  A year with a
sign is written with four digits or more and ends at the `-` behind them; a year without one is
written with four digits, and four are read; all other parts are written with two digits, and two
are read whatever follows.

So the literal of a date is the literal of the text between its quotes
(`Literal.render_date_canonical`).  The text fits the format it is written in and no other one, so
it does not matter in which order the formats are tried.
-/

import PagedQuery.Dialect.Product
import PagedQuery.Literal
import PagedQuery.Proofs.Action
import PagedQuery.Proofs.Decimal.Padded
import PagedQuery.Proofs.Text.Words
import PagedQuery.Proofs.Timestamp.Formats

namespace PagedQuery
namespace Timestamp

open Decimal

variable {cs rest : List Char} {width n : Nat}

/-! ### Numbers -/

/-- Digits are read up to the most that are read, or to where something else begins. -/
theorem readDigits?_append {ds : List Char} {most : Nat} (nonempty : ds ≠ [])
    (digits : ∀ c ∈ ds, c.isDigit = true) (fits : ds.length ≤ most)
    (stops : ds.length = most ∨ ∀ c ∈ rest.head?, c.isDigit = false) :
    readDigits? most (ds ++ rest) = some (ds, rest) := by
  have taken : ((ds ++ rest).takeWhile Char.isDigit).take most = ds := by
    rw [List.takeWhile_append_of_pos digits]
    rcases stops with full | other
    · exact List.take_left' full
    · have nothing : rest.takeWhile Char.isDigit = [] := by
        cases rest with
        | nil => rfl
        | cons c rest => exact List.takeWhile_cons_of_neg (by simp [other c rfl])
      rw [nothing, List.append_nil, List.take_of_length_le fits]
  have some : ds.isEmpty = false := List.isEmpty_eq_false_iff.2 nonempty
  simp only [readDigits?, taken, some, List.drop_left, Bool.false_eq_true, if_false]

/-- A numeral starts with no blank. -/
theorem trimStart_padded_append (width n : Nat) (rest : List Char) :
    Text.trimStart (padded width n ++ rest) = padded width n ++ rest := by
  refine Text.trimStart_eq_self fun c first => Text.isBlank_eq_false_of_isDigit ?_
  obtain ⟨cs, start⟩ := List.head?_eq_some_iff.1 first
  exact isDigit_of_padded_append_eq_cons start

/-- Two digits are read whatever follows them. -/
theorem readNumber?_padded (small : n < 100) (rest : List Char) :
    readNumber? (padded 2 n ++ rest) = some (n, rest) := by
  have full : (padded 2 n).length = 2 := length_padded small
  have read : readDigits? 2 (padded 2 n ++ rest) = some (padded 2 n, rest) :=
    readDigits?_append (padded_ne_nil 2 n) isDigit_of_mem_padded full.le (.inl full)
  simp only [readNumber?, trimStart_padded_append, read, Option.map_some, ofDigits_padded]

/-- A year is read up to the mark behind it. -/
theorem readYear?_yearText (year : Int) (rest : List Char) :
    readYear? (yearText year ++ '-' :: rest) = some (year, '-' :: rest) := by
  have read (most : Nat) (fits : (padded 4 year.natAbs).length ≤ most) :
      readDigits? most (padded 4 year.natAbs ++ '-' :: rest) =
        some (padded 4 year.natAbs, '-' :: rest) := by
    refine readDigits?_append (padded_ne_nil _ _) isDigit_of_mem_padded fits (.inr ?_)
    rintro c ⟨⟩
    rfl
  have signed := read (padded 4 year.natAbs ++ '-' :: rest).length (by simp)
  unfold yearText
  -- A sign is written for the years that need one, and read without a bound on the digits;
  -- without a sign just four digits are read, so it matters that four were written.
  split
  · next negative =>
    have start : Text.trimStart ('-' :: padded 4 year.natAbs ++ '-' :: rest) =
        '-' :: (padded 4 year.natAbs ++ '-' :: rest) := rfl
    have same : -(year.natAbs : Int) = year := by omega
    simp only [readYear?, start, signed, Option.map_some, ofDigits_padded, same]
  split
  · next nonneg large =>
    have start : Text.trimStart ('+' :: padded 4 year.natAbs ++ '-' :: rest) =
        '+' :: (padded 4 year.natAbs ++ '-' :: rest) := rfl
    have same : (year.natAbs : Int) = year := by omega
    simp only [readYear?, start, signed, Option.map_some, ofDigits_padded, same]
  · next nonneg small =>
    have fits : year.natAbs < 10000 := by omega
    have full : (padded 4 year.natAbs).length = 4 := length_padded fits
    have same : (year.natAbs : Int) = year := by omega
    rw [readYear?, trimStart_padded_append]
    split
    · next minus => cases isDigit_of_padded_append_eq_cons minus
    · next plus => cases isDigit_of_padded_append_eq_cons plus
    · simp only [read 4 full.le, Option.map_some, ofDigits_padded, same]

/-! ### The whole text -/

/-- A timestamp without the fraction of its second.  It is what the text shows, so it is what is
read back. -/
def toSecond (t : Timestamp) : Timestamp :=
  { t with
    nanosecond := 0
    valid := by
      obtain ⟨year, month, day, hour, minute, second, -⟩ := t.valid
      exact ⟨year, month, day, hour, minute, second, by decide⟩ }

/-- The fraction of the second is not written. -/
theorem text_toSecond (t : Timestamp) : t.toSecond.text = t.text :=
  rfl

/-- A day of any month has at most two digits. -/
theorem day_lt (t : Timestamp) : t.day < 100 := by
  obtain ⟨-, -, ⟨-, last⟩, -⟩ := t.valid
  have most : daysInMonth t.year t.month ≤ 31 := by
    unfold daysInMonth
    split_ifs <;> decide
  omega

/-- The format with a blank and a fraction reads the text of a timestamp.  The fraction it looks for
is not there, which is as good as zero. -/
theorem readFormat?_text (t : Timestamp) :
    readFormat? (date ++ (toMinute ++ fromSecond)) t.text = some t.toSecond := by
  obtain ⟨-, ⟨-, month⟩, -, hour, minute, second, -⟩ := t.valid
  have space (cs : List Char) : Text.trimStart (' ' :: cs) = Text.trimStart cs := rfl
  have seconds : readNumber? (padded 2 t.second) = some (t.second, []) := by
    have read := readNumber?_padded (by omega : t.second < 100) []
    rwa [List.append_nil] at read
  have fields : readParts (date ++ (toMinute ++ fromSecond)) .none t.text =
      some ⟨t.year, t.month, t.day, t.hour, t.minute, t.second, 0⟩ := by
    simp only [text, dateText, timeText, date, toMinute, fromSecond, List.cons_append,
      List.nil_append, List.append_assoc, readParts, readYear?_yearText, Option.bind_eq_bind,
      Option.bind_some, if_true, readNumber?_padded (by omega : t.month < 100),
      readNumber?_padded t.day_lt, space, trimStart_padded_append,
      readNumber?_padded (by omega : t.hour < 100), readNumber?_padded (by omega : t.minute < 100),
      seconds, readFraction?]
  rw [readFormat?, fields, Option.bind_some]
  exact dif_pos t.toSecond.valid

/-- The text of a timestamp begins and ends with no blank. -/
theorem trim_text (t : Timestamp) : Text.trim t.text = t.text := by
  have first : Text.trimStart t.text = t.text := by
    rw [text, dateText]
    unfold yearText
    split
    · rfl
    split
    · rfl
    · rw [List.append_assoc, trimStart_padded_append]
  -- The last character is the last digit of the second.
  have last : ∃ before d, t.text = before ++ [digitChar d] ∧ d < 10 := by
    refine ⟨t.dateText ++ ' ' :: (padded 2 t.hour ++ ':' :: (padded 2 t.minute ++
      ':' :: padded 1 (t.second / 10))), t.second % 10, ?_, Nat.mod_lt _ (by decide)⟩
    rw [text, timeText, padded_succ_succ 0 t.second]
    simp
  obtain ⟨before, d, whole, small⟩ := last
  rw [Text.trim, first, whole]
  exact Text.trimEnd_append_singleton before
    (Text.isBlank_eq_false_of_isDigit (isDigit_digitChar small))

/-- **The text of a timestamp is read back** to the second.  The first format that is tried reads
it, so the others are not asked. -/
theorem read?_text (t : Timestamp) : read? t.text = some t.toSecond := by
  rw [read?, trim_text, findSome?_readFormat?_eq_some_iff fun format => id]
  exact ⟨_, by simp [formats_eq], readFormat?_text t⟩

/-- A timestamp is written with digits and marks. -/
theorem apart_of_mem_text (t : Timestamp) : ∀ c ∈ t.text, c ≠ '\'' ∧ c ≠ '\\' := by
  have numeral (width n : Nat) : ∀ c ∈ padded width n, c ≠ '\'' ∧ c ≠ '\\' := by
    intro c inside
    have digit := isDigit_of_mem_padded c inside
    exact ⟨by rintro rfl; exact absurd digit (by decide),
      by rintro rfl; exact absurd digit (by decide)⟩
  have year : ∀ c ∈ yearText t.year, c ≠ '\'' ∧ c ≠ '\\' := by
    unfold yearText
    split
    · exact List.forall_mem_cons.2 ⟨by decide, numeral 4 _⟩
    split
    · exact List.forall_mem_cons.2 ⟨by decide, numeral 4 _⟩
    · exact numeral 4 _
  simp only [text, dateText, timeText, List.mem_append, List.mem_cons]
  rintro c ((inside | rfl | inside | rfl | inside) | rfl | inside | rfl | inside | rfl | inside)
  all_goals first | exact year _ inside | exact numeral 2 _ _ inside | decide

end Timestamp

/-! ### Date literals -/

namespace Literal

/-- The text of a timestamp stands between the quotes of its literal. -/
theorem exists_timestamp_eq (d : Dialect) (t : Timestamp) :
    ∃ opening, '\'' ∉ opening ∧ timestamp d t = opening ++ '\'' :: (t.text ++ ['\'']) := by
  unfold timestamp
  split
  · exact ⟨"TIMESTAMP ".toList, by decide, rfl⟩
  · exact ⟨[], List.not_mem_nil, rfl⟩

/-- The fraction of the second does not show in the literal.  So two values that differ in it alone
have one literal. -/
theorem timestamp_toSecond (d : Dialect) (t : Timestamp) :
    timestamp d t.toSecond = timestamp d t := by
  rw [timestamp, timestamp, t.text_toSecond]

/-- A date has a literal exactly if it is read as a timestamp. -/
theorem render_date_eq_ok_iff {d : Dialect} {value literal : List Char} :
    render d .date value = .ok literal ↔
      ∃ t, Timestamp.read? value = some t ∧ literal = timestamp d t := by
  rw [render]
  constructor
  · intro rendered
    split at rendered
    · next t read => exact ⟨t, read, (Except.ok.inj rendered).symm⟩
    · cases rendered
  · rintro ⟨t, read, rfl⟩
    rw [read]

/-- **Date literals are canonical.**  Between the quotes of a date literal stands the text of
the timestamp that was read, which holds neither quotes nor backslashes and has the same
literal; no text fits two of the formats, and their order does not matter. -/
theorem render_date_canonical (d : Dialect) :
    (∀ value literal, render d .date value = .ok literal →
      ∃ opening t, Timestamp.read? value = some t ∧
        literal = opening ++ '\'' :: (t.text ++ ['\'']) ∧ '\'' ∉ opening ∧
        (∀ c ∈ t.text, c ≠ '\'' ∧ c ≠ '\\') ∧ render d .date t.text = .ok literal) ∧
    (∀ cs, ∀ format ∈ Timestamp.formats, ∀ other ∈ Timestamp.formats, ∀ t u,
      Timestamp.readFormat? format cs = some t → Timestamp.readFormat? other cs = some u →
        format = other ∧ t = u) ∧
    (∀ fs : List (List Timestamp.Part), fs.Perm Timestamp.formats → ∀ value,
      (fs.findSome? fun format => Timestamp.readFormat? format (Text.trim value)) =
        Timestamp.read? value) := by
  refine ⟨fun value literal rendered => ?_, ?_, ?_⟩
  · obtain ⟨t, read, rfl⟩ := render_date_eq_ok_iff.1 rendered
    obtain ⟨opening, unquoted, whole⟩ := exists_timestamp_eq d t
    -- The text is read as the timestamp to the second, and the literal shows no more than that.
    have again : render d .date t.text = .ok (timestamp d t) :=
      render_date_eq_ok_iff.2 ⟨_, t.read?_text, (timestamp_toSecond d t).symm⟩
    exact ⟨opening, t, read, whole, unquoted, t.apart_of_mem_text, again⟩
  · intro cs format known other known' t u
    exact Timestamp.readFormat?_unique known known'
  · exact fun fs same value => Timestamp.findSome?_readFormat?_of_perm same (Text.trim value)

/-- A leap second before the common era, in the format with a `T`. -/
theorem render_date_canonical_leap :
    render Product.oracle.dialect .date "-44-3-15T23:59:60.5".toList =
        .ok "TIMESTAMP '-0044-03-15 23:59:60'".toList ∧
      ∃ opening t, Timestamp.read? "-44-3-15T23:59:60.5".toList = some t ∧
        "TIMESTAMP '-0044-03-15 23:59:60'".toList = opening ++ '\'' :: (t.text ++ ['\'']) ∧
        '\'' ∉ opening ∧ (∀ c ∈ t.text, c ≠ '\'' ∧ c ≠ '\\') ∧
        render Product.oracle.dialect .date t.text =
          .ok "TIMESTAMP '-0044-03-15 23:59:60'".toList := by
  have rendered : render Product.oracle.dialect .date "-44-3-15T23:59:60.5".toList =
      .ok "TIMESTAMP '-0044-03-15 23:59:60'".toList :=
    ok_of_toOption (by decide +kernel)
  exact ⟨rendered, (render_date_canonical _).1 _ _ rendered⟩

end Literal
end PagedQuery
