/-
# Numbers in a JSON text

A number stands in a text as a token: a sign, a whole part without leading zeros, and possibly a
fraction and an exponent.  The printer writes an integer as its digits alone.  A real always gets
a fraction or an exponent.  Where its first digit has a place from the fifth behind the point to
the sixteenth before it, the real is written positionally, `0` standing for a fraction it does not
have; otherwise as its first digit, the other ones behind a point, and the power of ten with its
sign.  So a text tells the two kinds apart, and each text the printer writes is that of a
`NumberToken` (`NumberToken.text_ofInt`, `NumberToken.exists_decimal`).

A token is read as a whole wherever it stands, as long as what follows cannot continue it
(`NumberToken.readNumber?_append`).  Integers of a word's range are read as themselves
(`NumberToken.value_ofInt`).  The text of a finite real is read as a real
(`exists_readNumber?_number`), though not always as the same one: two roundings are made while
reading and none while writing, which is why the statement gives the real existentially and does
not name it.
-/

import PagedQuery.Json.Printer
import PagedQuery.Json.Reader

namespace PagedQuery

namespace Decimal

/-- A numeral other than that of zero does not start with a zero. -/
theorem head?_digits_ne_zero {n : Nat} (positive : n ≠ 0) : (digits n).head? ≠ some '0' := by
  rw [digits]
  split
  · next small =>
    have all : ∀ d, d < 10 → d ≠ 0 → [digitChar d].head? ≠ some '0' := by decide
    exact all n small positive
  · next large =>
    rw [List.head?_append, Option.or_of_isSome (by simpa using digits_ne_nil (n / 10))]
    exact head?_digits_ne_zero (by omega)
termination_by n
decreasing_by omega

/-- The zeros that pad a positional number are digits. -/
theorem isDigit_of_mem_replicate {n : Nat} : ∀ c ∈ List.replicate n '0', c.isDigit = true := by
  intro c inside
  rw [List.eq_of_mem_replicate inside]
  rfl

end Decimal

namespace Json

open Decimal

/-- Whether a text cannot continue a number that stands before it.  Commas, brackets, braces, blanks
and the end of the text are such. -/
def EndsNumber (rest : List Char) : Prop :=
  ∀ c ∈ rest.head?, c.isDigit = false ∧ c ≠ '.' ∧ c ≠ 'e' ∧ c ≠ 'E'

/-- A number may end with the text. -/
theorem EndsNumber.nil : EndsNumber [] := by
  intro c inside
  cases inside

/-- Whether a text ends a number is decided by its first character. -/
theorem EndsNumber.cons {c : Char} (cs : List Char)
    (other : c.isDigit = false ∧ c ≠ '.' ∧ c ≠ 'e' ∧ c ≠ 'E') : EndsNumber (c :: cs) := by
  rintro _ ⟨⟩
  exact other

/-- Digits end where something else begins. -/
theorem spanDigits_append {ds rest : List Char} (digits : ∀ c ∈ ds, c.isDigit = true)
    (stops : ∀ c ∈ rest.head?, c.isDigit = false) : spanDigits (ds ++ rest) = (ds, rest) := by
  rw [spanDigits, List.takeWhile_append_of_pos digits, List.dropWhile_append_of_pos digits]
  cases rest with
  | nil => simp
  | cons c rest =>
    have stop := stops c rfl
    rw [List.takeWhile_cons_of_neg (by simp [stop]), List.dropWhile_cons_of_neg (by simp [stop]),
      List.append_nil]

/-- A number as it stands in a text.  Its parts are kept as digits, since what they denote depends
on which of them are there. -/
structure NumberToken where
  /-- Whether a minus sign stands first. -/
  negative : Bool
  /-- The digits before the point. -/
  whole : List Char
  /-- The digits after the point. -/
  fraction : Option (List Char)
  /-- The power of ten behind the letter. -/
  exponent : Option Int
  whole_digits : ∀ c ∈ whole, c.isDigit = true
  /-- No zero stands before another digit. -/
  whole_leading : whole = ['0'] ∨ whole ≠ [] ∧ whole.head? ≠ some '0'
  fraction_digits : ∀ ds ∈ fraction, ds ≠ [] ∧ ∀ c ∈ ds, c.isDigit = true

namespace NumberToken

/-- The text of a fraction. -/
def fractionText : Option (List Char) → List Char
  | some ds => '.' :: ds
  | none => []

/-- The text of an exponent, its sign always written. -/
def exponentText : Option Int → List Char
  | some e => 'e' :: (if e < 0 then '-' else '+') :: digits e.natAbs
  | none => []

/-- The text of a number. -/
def text (t : NumberToken) : List Char :=
  (if t.negative then ['-'] else []) ++
    (t.whole ++ (fractionText t.fraction ++ exponentText t.exponent))

/-- What a number denotes: an integer only if it has neither a fraction nor an exponent.  An integer
that is too large for a word is a real too. -/
def value (t : NumberToken) : Json :=
  if t.fraction.isNone && t.exponent.isNone then integerValue t.negative t.whole
  else .real (decimalValue t.negative t.whole (t.fraction.getD []) (t.exponent.getD 0))

variable {rest : List Char}

/-- A whole part starts with a digit, so a token is never empty and its first character tells the
reader that a number begins. -/
theorem head?_whole (t : NumberToken) : ∃ c cs, t.whole = c :: cs ∧ c.isDigit = true := by
  cases whole : t.whole with
  | nil => rcases t.whole_leading with h | ⟨h, -⟩ <;> simp [whole] at h
  | cons c cs => exact ⟨c, cs, rfl, t.whole_digits c (by simp [whole])⟩

/-- A whole part is read up to the first character that is no digit. -/
theorem readWhole?_append (t : NumberToken) (stops : ∀ c ∈ rest.head?, c.isDigit = false) :
    readWhole? (t.whole ++ rest) = some (t.whole, rest) := by
  rw [readWhole?, spanDigits_append t.whole_digits stops]
  obtain ⟨c, cs, whole, -⟩ := t.head?_whole
  rcases t.whole_leading with zero | ⟨-, leading⟩
  · rw [zero]
    rfl
  · rw [whole] at leading ⊢
    have other : c ≠ '0' := fun same => leading (by rw [same]; rfl)
    split
    · next h => cases h
    · next h => exact absurd (List.cons.inj (Prod.mk.inj h).1).1 other
    · next h => rw [(Prod.mk.inj h).1, (Prod.mk.inj h).2]

/-- A fraction is read up to the first character that is no digit.  A point that follows it directly
would be taken for a fraction of its own where the token has none. -/
theorem readFraction?_append {fraction : Option (List Char)}
    (digits : ∀ ds ∈ fraction, ds ≠ [] ∧ ∀ c ∈ ds, c.isDigit = true)
    (stops : ∀ c ∈ rest.head?, c.isDigit = false ∧ c ≠ '.') :
    readFraction? (fractionText fraction ++ rest) = some (fraction, rest) := by
  cases fraction with
  | none =>
    rw [fractionText, List.nil_append]
    cases rest with
    | nil => rfl
    | cons c rest =>
      have other := (stops c rfl).2
      rw [readFraction?.eq_def]
      split
      · next h => exact absurd (List.cons.inj h).1 other
      · rfl
  | some ds =>
    obtain ⟨some_digit, all_digits⟩ := digits ds rfl
    rw [fractionText, List.cons_append, readFraction?,
      spanDigits_append all_digits fun c inside => (stops c inside).1]
    cases ds with
    | nil => exact absurd rfl some_digit
    | cons d ds => rfl

/-- An exponent is read with its sign, up to the first character that is no digit. -/
theorem readExponent?_append {exponent : Option Int} (stops : EndsNumber rest) :
    readExponent? (exponentText exponent ++ rest) = some (exponent, rest) := by
  cases exponent with
  | none =>
    rw [exponentText, List.nil_append]
    cases rest with
    | nil => rfl
    | cons c rest =>
      obtain ⟨-, -, lower, upper⟩ := stops c rfl
      rw [readExponent?, if_neg (by simp [lower, upper])]
  | some e =>
    have span := spanDigits_append (isDigit_of_mem_digits e.natAbs) fun c inside =>
      (stops c inside).1
    have number := ofDigits_digits e.natAbs
    have some_digit := digits_ne_nil e.natAbs
    rw [exponentText, List.cons_append, List.cons_append, readExponent?, if_pos (.inl rfl)]
    -- From here on only the value of the digits matters, not that they are those of `e`.
    generalize digits e.natAbs = ds at span number some_digit ⊢
    obtain ⟨d, ds, rfl⟩ := List.exists_cons_of_ne_nil some_digit
    by_cases negative : e < 0
    · have signed : -(ofDigits (d :: ds) : Int) = e := by omega
      simp only [if_pos negative, spanSign, span, if_true, signed]
    · have unsigned : (ofDigits (d :: ds) : Int) = e := by omega
      simp only [if_neg negative, spanSign, span, Bool.false_eq_true, if_false, unsigned]

/-- What follows a whole part is no digit. -/
theorem stops_whole (t : NumberToken) (stops : EndsNumber rest) :
    ∀ c ∈ (fractionText t.fraction ++ (exponentText t.exponent ++ rest)).head?,
      c.isDigit = false := by
  intro c inside
  -- Behind the whole part comes the point, or else the letter of the exponent, or else what
  -- follows the number.
  cases fraction : t.fraction with
  | some ds =>
    rw [fraction] at inside
    obtain rfl : '.' = c := by simpa [fractionText] using inside
    rfl
  | none =>
    cases exponent : t.exponent with
    | some e =>
      rw [fraction, exponent] at inside
      obtain rfl : 'e' = c := by simpa [fractionText, exponentText] using inside
      rfl
    | none =>
      rw [fraction, exponent] at inside
      exact (stops c (by simpa [fractionText, exponentText] using inside)).1

/-- What follows a fraction is neither a digit nor a point. -/
theorem stops_fraction (t : NumberToken) (stops : EndsNumber rest) :
    ∀ c ∈ (exponentText t.exponent ++ rest).head?, c.isDigit = false ∧ c ≠ '.' := by
  intro c inside
  cases exponent : t.exponent with
  | some e =>
    rw [exponent] at inside
    obtain rfl : 'e' = c := by simpa [exponentText] using inside
    decide
  | none =>
    rw [exponent] at inside
    obtain ⟨digit, point, -⟩ := stops c (by simpa [exponentText] using inside)
    exact ⟨digit, point⟩

end NumberToken

/-- Reads a number after its sign, as the reader does.  It is taken out of the reader so that the
sign is dealt with once. -/
def readUnsigned? (negative : Bool) (body : List Char) : Option (Json × List Char) := do
  let (whole, rest) ← readWhole? body
  let (fraction, rest) ← readFraction? rest
  let (exponent, rest) ← readExponent? rest
  if fraction.isNone && exponent.isNone then return (integerValue negative whole, rest)
  else return (.real (decimalValue negative whole (fraction.getD []) (exponent.getD 0)), rest)

/-- The reader takes the sign off first. -/
theorem readNumber?_minus (body : List Char) :
    readNumber? ('-' :: body) = readUnsigned? true body :=
  rfl

/-- A number without a sign is not negative. -/
theorem readNumber?_of_ne_minus {c : Char} {cs : List Char} (other : c ≠ '-') :
    readNumber? (c :: cs) = readUnsigned? false (c :: cs) := by
  unfold readNumber? readUnsigned?
  split
  next negative body sign =>
  split at sign
  · next minus => exact absurd (List.cons.inj minus).1 other
  · next plain =>
    obtain ⟨rfl, rfl⟩ := Prod.mk.inj sign
    rfl

namespace NumberToken

variable {rest : List Char}

/-- What stands behind the sign is read part by part.  Each part ends because the next one starts
with none of its characters. -/
theorem readUnsigned?_append (t : NumberToken) (stops : EndsNumber rest) :
    readUnsigned? t.negative
        (t.whole ++ (fractionText t.fraction ++ (exponentText t.exponent ++ rest))) =
      some (t.value, rest) := by
  simp only [readUnsigned?, t.readWhole?_append (t.stops_whole stops),
    readFraction?_append t.fraction_digits (t.stops_fraction stops), readExponent?_append stops,
    Option.bind_eq_bind, Option.bind_some, value]
  split
  · rfl
  · rfl

/-- **A number is read as a whole**, wherever it stands, if what follows cannot continue it.  It is
the one lemma about numbers that the reader of values needs. -/
theorem readNumber?_append (t : NumberToken) (stops : EndsNumber rest) :
    readNumber? (t.text ++ rest) = some (t.value, rest) := by
  have unsigned := t.readUnsigned?_append stops
  rw [text, List.append_assoc, List.append_assoc, List.append_assoc]
  cases negative : t.negative with
  | true =>
    rw [negative] at unsigned
    rw [if_pos rfl, List.singleton_append, readNumber?_minus, unsigned]
  | false =>
    obtain ⟨c, cs, head, digit⟩ := t.head?_whole
    have other : c ≠ '-' := by rintro rfl; exact absurd digit (by decide)
    rw [negative, head, List.cons_append] at unsigned
    rw [if_neg Bool.false_ne_true, List.nil_append, head, List.cons_append,
      readNumber?_of_ne_minus other, unsigned]

/-! ### Integers -/

/-- The token of an integer. -/
def ofInt (i : Int) : NumberToken where
  negative := decide (i < 0)
  whole := digits i.natAbs
  fraction := none
  exponent := none
  whole_digits := isDigit_of_mem_digits i.natAbs
  whole_leading := by
    by_cases zero : i.natAbs = 0
    · exact .inl (by rw [zero, digits]; rfl)
    · exact .inr ⟨digits_ne_nil _, head?_digits_ne_zero zero⟩
  fraction_digits := by simp

/-- The printer writes an integer as its token. -/
theorem text_ofInt (i : Int) : (ofInt i).text = intDigits i := by
  by_cases negative : i < 0
  · simp [text, ofInt, intDigits, fractionText, exponentText, negative]
  · simp [text, ofInt, intDigits, fractionText, exponentText, negative]

/-- An integer of a word's range, signed or not, denotes itself. -/
theorem value_ofInt {i : Int} (lower : Int64.minValue.toInt ≤ i) (upper : i < UInt64.size) :
    (ofInt i).value = .integer i := by
  have number := ofDigits_digits i.natAbs
  show integerValue (decide (i < 0)) (digits i.natAbs) = .integer i
  rw [integerValue, number]
  by_cases negative : i < 0
  · have opposite : -(i.natAbs : Int) = i := by omega
    rw [if_pos (decide_eq_true negative), if_pos ⟨by omega, by omega⟩, opposite]
  · have same : (i.natAbs : Int) = i := by omega
    rw [if_neg (by simpa using negative), if_pos (by omega), same]

/-! ### Reals -/

/-- Whether a token can only denote a real: it has a fraction or an exponent. -/
def IsReal (t : NumberToken) : Prop :=
  (t.fraction.isNone && t.exponent.isNone) = false

/-- What has a fraction or an exponent is read as a real, even where its value is whole.  So a real
never comes back as an integer. -/
theorem exists_value_eq_real {t : NumberToken} (real : t.IsReal) : ∃ x, t.value = .real x := by
  rw [value, real]
  exact ⟨_, rfl⟩

/-- A token of digits before the point and after it. -/
theorem exists_positional (negative : Bool) {whole fraction : List Char}
    (whole_digits : ∀ c ∈ whole, c.isDigit = true)
    (whole_leading : whole = ['0'] ∨ whole ≠ [] ∧ whole.head? ≠ some '0')
    (some_digit : fraction ≠ []) (fraction_digits : ∀ c ∈ fraction, c.isDigit = true) :
    ∃ t : NumberToken, t.IsReal ∧
      t.text = (if negative then ['-'] else []) ++ (whole ++ '.' :: fraction) := by
  refine ⟨⟨negative, whole, some fraction, none, whole_digits, whole_leading, ?_⟩, rfl, ?_⟩
  · rintro _ ⟨⟩
    exact ⟨some_digit, fraction_digits⟩
  · simp [text, fractionText, exponentText]

/-- Digits and an exponent are a token. -/
theorem exists_exponential (negative : Bool) {n : Nat} (positive : n ≠ 0) (exponent : Int) :
    ∃ t : NumberToken, t.IsReal ∧ t.text = (if negative then ['-'] else []) ++
      Layout.json.exponential (digits n) exponent := by
  have numeral := isDigit_of_mem_digits n
  have leading := head?_digits_ne_zero positive
  obtain ⟨d, ds, head⟩ := List.exists_cons_of_ne_nil (digits_ne_nil n)
  rw [head] at numeral leading ⊢
  -- JSON writes the plus sign of an exponent too, as `exponentText` does.
  have sign : (if exponent < 0 then "-".toList else Layout.json.exponentPlus.toList) =
      [if exponent < 0 then '-' else '+'] := by
    split <;> rfl
  cases ds with
  | nil =>
    refine ⟨⟨negative, [d], none, some exponent, numeral, .inr ⟨by simp, leading⟩, by simp⟩,
      rfl, ?_⟩
    rw [Layout.exponential, sign]
    simp [text, fractionText, exponentText]
  | cons d' ds =>
    refine ⟨⟨negative, [d], some (d' :: ds), some exponent, ?_, .inr ⟨by simp, leading⟩, ?_⟩,
      rfl, ?_⟩
    · exact fun c inside => numeral c (by simp_all)
    · rintro _ ⟨⟩
      exact ⟨by simp, fun c inside => numeral c (List.mem_cons_of_mem _ inside)⟩
    · rw [Layout.exponential, sign]
      simp [text, fractionText, exponentText]

/-- A decimal as JSON writes it is a token that can only denote a real. -/
theorem exists_decimal (negative : Bool) (x : Scientific) :
    ∃ t : NumberToken, t.IsReal ∧
      t.text = (if negative then ['-'] else []) ++ Layout.json.decimal x := by
  have zeros := @isDigit_of_mem_replicate
  have single_zero : ∀ c ∈ ['0'], c.isDigit = true := by simp
  have numeral := isDigit_of_mem_digits x.coefficient
  rw [Layout.decimal]
  by_cases zero : x.coefficient = 0
  · rw [if_pos zero]
    exact exists_positional negative single_zero (.inl rfl) (by simp) single_zero
  have leading := head?_digits_ne_zero zero
  have some_digit := digits_ne_nil x.coefficient
  rw [if_neg zero]
  by_cases plain : Layout.json.isPositional x.leadingExponent = true
  -- Positional: the point stands left of the digits, right of them or among them.
  · rw [if_pos plain]
    generalize digits x.coefficient = ds at numeral leading some_digit
    generalize x.leadingExponent + 1 = whole
    rw [Layout.positional]
    by_cases below : whole ≤ 0
    · rw [if_pos below]
      refine exists_positional negative single_zero (.inl rfl) (by simp [some_digit])
        fun c inside => ?_
      rcases List.mem_append.1 inside with zero | digit
      · exact zeros c zero
      · exact numeral c digit
    rw [if_neg below]
    by_cases integral : ds.length ≤ whole.toNat
    · have ending : Layout.json.wholeEnding.toList = ['.', '0'] := rfl
      rw [if_pos integral, ending]
      refine exists_positional negative ?_ (.inr ⟨by simp [some_digit], ?_⟩) (by simp) (by simp)
      · intro c inside
        rcases List.mem_append.1 inside with digit | zero
        · exact numeral c digit
        · exact zeros c zero
      · rw [List.head?_append, Option.or_of_isSome (by simpa using some_digit)]
        exact leading
    · rw [if_neg integral]
      refine exists_positional negative (fun c inside => numeral c (List.mem_of_mem_take inside))
        (.inr ⟨?_, ?_⟩) ?_ (fun c inside => numeral c (List.mem_of_mem_drop inside))
      · simp [some_digit]
        omega
      · rw [List.head?_take, if_neg (by omega)]
        exact leading
      · simp
        omega
  · rw [if_neg plain]
    exact exists_exponential negative zero _

end NumberToken

/-- The text of a finite real is read as one real, wherever it stands. -/
theorem exists_readNumber?_number (negative : Bool) (x : Magnitude) :
    ∃ y, ∀ rest, EndsNumber rest →
      readNumber? (Layout.json.number (.finite negative x) ++ rest) = some (.real y, rest) := by
  obtain ⟨t, real, text⟩ := NumberToken.exists_decimal negative (x.shortest Layout.json.tie)
  obtain ⟨y, value⟩ := NumberToken.exists_value_eq_real real
  refine ⟨y, fun rest stops => ?_⟩
  rw [Layout.number, ← text, t.readNumber?_append stops, value]

end Json
end PagedQuery
