/-
# Reading what was written

The text of a value is read as one value again, `Json.reread`, whether it is written without
blanks (`read?_print`) or with its parts on lines of their own (`read?_printPretty`).  It is the
value itself as far as a text can say what the value is.  `null`, truth values, strings and the
integers of a word's range come back, and arrays and objects come back part by part.  A finite
real comes back as the real its text is read as, which need not be the same one.  Infinities, what
is not a number and what JSON has no form for are written as `null` and stay that.

Both ways of writing are one printer at two spacings, `spacedAt` (`spacedAt_none`,
`spacedAt_lines`), so that the round trip is proved once.  The proof follows the printer: each of
its functions leaves a text that the reader of the same name takes off, down to what followed it,
and the three statements are proved by one mutual recursion.  What may follow is limited only by
numbers, which would go on (`EndsNumber`).  A value of `n` characters needs at most `2 n` steps
of fuel, one for the value and one for the list it stands in.
-/

import PagedQuery.Proofs.Json.Number

namespace PagedQuery
namespace Json

open Decimal

/-! ### Strings -/

/-- The two hexadecimal digits of a control character are read as its code. -/
theorem hex4?_hexChar {n : Nat} (control : n < 0x20) :
    hex4? '0' '0' (hexChar (n / 16)) (hexChar (n % 16)) = some n := by
  have all : ∀ n, n < 0x20 → hex4? '0' '0' (hexChar (n / 16)) (hexChar (n % 16)) = some n := by
    decide
  exact all n control

/-- A character is read as itself, whether it is escaped or not. -/
theorem readString?_escapeChar (c : Char) (rest : List Char) :
    readString? (escapeChar c ++ rest) = (readString? rest).map (withChar c) := by
  rw [escapeChar]
  split
  · next same => subst same; rfl
  split
  · next same => subst same; rfl
  split
  · next same => subst same; rfl
  split
  · next same => subst same; rfl
  split
  · next same => subst same; rfl
  split
  · next same => subst same; rfl
  split
  · next same => subst same; rfl
  split
  · next control =>
    have high : isHighSurrogate c.toNat = false := by simp [isHighSurrogate]; omega
    have low : isLowSurrogate c.toNat = false := by simp [isLowSurrogate]; omega
    simp only [List.cons_append, List.nil_append, readString?, hex4?_hexChar control, high, low,
      Option.bind_eq_bind, Option.bind_some, Bool.false_eq_true, if_false, Char.ofNat_toNat]
  -- A character without an escape goes through the default branch of the reader, since it is
  -- neither a quote nor a backslash nor a control character.
  · next quote backslash _ _ _ _ _ plain =>
    rw [List.singleton_append, readString?.eq_def]
    split
    · next head => cases head
    · next head => exact absurd (List.cons.inj head).1 quote
    · next head => exact absurd (List.cons.inj head).1 backslash
    · next head => exact absurd (List.cons.inj head).1 backslash
    · next head => exact absurd (List.cons.inj head).1 backslash
    · next head =>
      obtain ⟨rfl, rfl⟩ := List.cons.inj head
      rw [if_neg plain]

/-- A string is read up to its closing quote. -/
theorem readString?_flatMap_escapeChar (cs rest : List Char) :
    readString? (cs.flatMap escapeChar ++ '"' :: rest) = some (some cs, rest) := by
  induction cs with
  | nil => rfl
  | cons c cs ih =>
    rw [List.flatMap_cons, List.append_assoc, readString?_escapeChar, ih]
    rfl

/-! ### Values -/

/-- What the text of a real is read as, `null` if it has none. -/
def rereadReal (x : Binary64) : Json :=
  ((readNumber? (Layout.json.number x)).map Prod.fst).getD .null

mutual

/-- What the text of a value is read as.  It is the value but for its reals: one that has no text is
`null`, and one that has is what the reader makes of its digits. -/
def reread : Json → Json
  | .null => .null
  | .boolean b => .boolean b
  | .integer i => (NumberToken.ofInt i).value
  | .real x => rereadReal x
  | .text s => .text s
  | .array items => .array (rereadItems items)
  | .object members => .object (rereadMembers members)
  | .unrepresentable => .null

/-- What the texts of items are read as. -/
def rereadItems : List Json → List Json
  | [] => []
  | item :: items => reread item :: rereadItems items

/-- What the texts of members are read as. -/
def rereadMembers : List (String × Json) → List (String × Json)
  | [] => []
  | (name, value) :: members => (name, reread value) :: rereadMembers members

end

/-- Items are reread one by one; the recursion is spelled out only to be structural. -/
theorem rereadItems_eq_map (items : List Json) : rereadItems items = items.map reread := by
  induction items with
  | nil => rfl
  | cons item items ih => rw [rereadItems, ih, List.map_cons]

/-- The text of a finite real is read as a real, wherever it stands. -/
theorem readNumber?_number (negative : Bool) (x : Magnitude) {rest : List Char}
    (stops : EndsNumber rest) :
    readNumber? (Layout.json.number (.finite negative x) ++ rest) =
      some (rereadReal (.finite negative x), rest) := by
  obtain ⟨y, reads⟩ := exists_readNumber?_number negative x
  have alone := reads [] .nil
  rw [List.append_nil] at alone
  rw [reads rest stops, rereadReal, alone]
  rfl

/-- No blank is skipped in front of what is none. -/
theorem skipSpace_cons {c : Char} (cs : List Char) (other : isSpace c = false) :
    skipSpace (c :: cs) = c :: cs := by
  rw [skipSpace, List.dropWhile_cons_of_neg (by simp [other])]

/-- Blanks are skipped however many there are. -/
theorem skipSpace_append {blanks : List Char} (blank : ∀ c ∈ blanks, isSpace c = true)
    (cs : List Char) : skipSpace (blanks ++ cs) = skipSpace cs :=
  List.dropWhile_append_of_pos blank

/-- Blanks may stand before a value. -/
theorem readValue?_append {blanks : List Char} (blank : ∀ c ∈ blanks, isSpace c = true)
    (cs : List Char) (fuel : Nat) : readValue? fuel (blanks ++ cs) = readValue? fuel cs := by
  cases fuel with
  | zero => rfl
  | succ fuel => rw [readValue?, readValue?, skipSpace_append blank]

/-- Blanks may stand before a member. -/
theorem readMembers?_append {blanks : List Char} (blank : ∀ c ∈ blanks, isSpace c = true)
    (cs : List Char) (fuel : Nat) : readMembers? fuel (blanks ++ cs) = readMembers? fuel cs := by
  cases fuel with
  | zero => rfl
  | succ fuel => rw [readMembers?, readMembers?, skipSpace_append blank]

/-- What starts with a digit or a minus sign is read as a number. -/
theorem readValue?_of_number {c : Char} (number : c.isDigit = true ∨ c = '-') (cs : List Char)
    (fuel : Nat) : readValue? (fuel + 1) (c :: cs) = readNumber? (c :: cs) := by
  have other : c ∉ [' ', '\t', '\n', '\r', 'n', 't', 'f', '"', '[', '\x7b'] := by
    intro inside
    simp only [List.mem_cons, List.not_mem_nil, or_false] at inside
    rcases number with digit | rfl
    · rcases inside with rfl | rfl | rfl | rfl | rfl | rfl | rfl | rfl | rfl | rfl <;>
        exact absurd digit (by decide)
    · revert inside
      decide
  simp only [List.mem_cons, List.not_mem_nil, or_false, not_or] at other
  have space : isSpace c = false := by simp [isSpace, other]
  rw [readValue?, skipSpace_cons cs space]
  split <;> simp_all

/-- A number starts with a digit or with its sign, and nothing else does. -/
theorem NumberToken.head?_text (t : NumberToken) :
    ∃ c cs, t.text = c :: cs ∧ (c.isDigit = true ∨ c = '-') := by
  obtain ⟨c, cs, head, digit⟩ := t.head?_whole
  cases negative : t.negative with
  | true => exact ⟨'-', _, by rw [text, negative, if_pos rfl, List.singleton_append], .inr rfl⟩
  | false =>
    refine ⟨c, cs ++ (fractionText t.fraction ++ exponentText t.exponent), ?_, .inl digit⟩
    rw [text, negative, if_neg Bool.false_ne_true, List.nil_append, head, List.cons_append]

/-- Where a value is expected a number is read as a whole. -/
theorem NumberToken.readValue?_append (t : NumberToken) {rest : List Char}
    (stops : EndsNumber rest) (fuel : Nat) :
    readValue? (fuel + 1) (t.text ++ rest) = some (t.value, rest) := by
  obtain ⟨c, cs, head, number⟩ := t.head?_text
  have reads := t.readNumber?_append stops
  rw [head, List.cons_append] at reads ⊢
  rw [readValue?_of_number number, reads]

/-- A string is read where a value is expected. -/
theorem readValue?_quoted (s : String) (rest : List Char) (fuel : Nat) :
    readValue? (fuel + 1) (quoted s ++ rest) = some (.text s, rest) := by
  rw [quoted, List.cons_append, List.append_assoc, List.singleton_append, readValue?,
    skipSpace_cons _ rfl]
  simp only [readString?_flatMap_escapeChar, Option.map_some, stringValue, String.ofList_toList]

/-- An array that is not closed at once has items. -/
theorem readValue?_bracket {blanks : List Char} (blank : ∀ c ∈ blanks, isSpace c = true) {c : Char}
    (space : isSpace c = false) (other : c ≠ ']') (cs : List Char) (fuel : Nat) :
    readValue? (fuel + 1) ('[' :: (blanks ++ c :: cs)) =
      (readItems? fuel (c :: cs)).map fun (items, rest) => (.array items, rest) := by
  rw [readValue?, skipSpace_cons _ rfl]
  simp only [skipSpace_append blank, skipSpace_cons cs space]
  split
  · next closed => exact absurd (List.cons.inj closed).1 other
  · rfl

/-- An object that goes on with a string has members. -/
theorem readValue?_brace {blanks : List Char} (blank : ∀ c ∈ blanks, isSpace c = true)
    (cs : List Char) (fuel : Nat) :
    readValue? (fuel + 1) ('\x7b' :: (blanks ++ '"' :: cs)) =
      (readMembers? fuel ('"' :: cs)).map fun (members, rest) => (objectValue members, rest) := by
  rw [readValue?, skipSpace_cons _ rfl]
  simp only [skipSpace_append blank, skipSpace_cons cs (show isSpace '"' = false from rfl)]
  rfl

/-! ### Values with blanks between their parts -/

/-- What is written between the parts of a value.  The two printers differ in nothing else, so one
proof at any spacing is enough for both. -/
structure Spacing where
  /-- In front of what stands at a level of nesting. -/
  line : Nat → List Char
  /-- In front of the value of a member. -/
  colon : List Char
  line_blank : ∀ level, ∀ c ∈ line level, isSpace c = true
  colon_blank : ∀ c ∈ colon, isSpace c = true

namespace Spacing

/-- Nothing between the parts. -/
def none : Spacing where
  line _ := []
  colon := []
  line_blank _ _ := nofun
  colon_blank _ := nofun

/-- Parts on lines of their own. -/
def lines : Spacing where
  line := newLine
  colon := [' ']
  line_blank level c inside := by
    rcases List.mem_cons.1 inside with rfl | inside
    · rfl
    · rw [List.eq_of_mem_replicate inside]
      rfl
  colon_blank := List.forall_mem_singleton.2 rfl

end Spacing

mutual

/-- A value at a level of nesting.  The level is the number of arrays and objects it stands in, and
says how far a line is indented. -/
def spacedAt (gap : Spacing) (level : Nat) : Json → List Char
  | .array (item :: items) =>
    '[' :: (gap.line (level + 1) ++ (spacedAt gap (level + 1) item ++ spacedItems gap level items))
  | .object ((name, value) :: members) =>
    '\x7b' :: (gap.line (level + 1) ++ (quoted name ++ ':' :: (gap.colon ++
      (spacedAt gap (level + 1) value ++ spacedMembers gap level members))))
  | other => compact other

/-- The items of an array after its first one, and the closing bracket. -/
def spacedItems (gap : Spacing) (level : Nat) : List Json → List Char
  | [] => gap.line level ++ [']']
  | item :: items =>
    ',' :: (gap.line (level + 1) ++ (spacedAt gap (level + 1) item ++ spacedItems gap level items))

/-- The members of an object after its first one, and the closing brace. -/
def spacedMembers (gap : Spacing) (level : Nat) : List (String × Json) → List Char
  | [] => gap.line level ++ ['\x7d']
  | (name, value) :: members =>
    ',' :: (gap.line (level + 1) ++ (quoted name ++ ':' :: (gap.colon ++
      (spacedAt gap (level + 1) value ++ spacedMembers gap level members))))

end

mutual

/-- Without blanks the text is that of the compact printer. -/
theorem spacedAt_none : ∀ (level : Nat) (j : Json), spacedAt .none level j = compact j
  | level, .array (item :: items) => by
    rw [spacedAt, compact, spacedAt_none, spacedItems_none]
    rfl
  | level, .object ((name, value) :: members) => by
    rw [spacedAt, compact, spacedAt_none, spacedMembers_none]
    rfl
  | level, .array [] | level, .object [] | level, .null | level, .boolean _ | level, .integer _
  | level, .real _ | level, .text _ | level, .unrepresentable => by rw [spacedAt] <;> nofun

/-- Without blanks the items are those of the compact printer. -/
theorem spacedItems_none : ∀ (level : Nat) (items : List Json),
    spacedItems .none level items = compactItems items
  | level, [] => by rw [spacedItems, compactItems]; rfl
  | level, item :: items => by
    rw [spacedItems, compactItems, spacedAt_none, spacedItems_none]
    rfl

/-- Without blanks the members are those of the compact printer. -/
theorem spacedMembers_none : ∀ (level : Nat) (members : List (String × Json)),
    spacedMembers .none level members = compactMembers members
  | level, [] => by rw [spacedMembers, compactMembers]; rfl
  | level, (name, value) :: members => by
    rw [spacedMembers, compactMembers, spacedAt_none, spacedMembers_none]
    rfl

end

mutual

/-- On lines of their own the parts make up the text of the pretty printer. -/
theorem spacedAt_lines : ∀ (level : Nat) (j : Json), spacedAt .lines level j = prettyAt level j
  | level, .array (item :: items) => by
    rw [spacedAt, prettyAt, spacedAt_lines, spacedItems_lines, List.append_assoc]
    rfl
  | level, .object ((name, value) :: members) => by
    rw [spacedAt, prettyAt, spacedAt_lines, spacedMembers_lines]
    simp only [List.append_assoc]
    rfl
  | level, .array [] | level, .object [] => by rw [spacedAt, prettyAt, compact] <;> nofun
  | level, .null | level, .boolean _ | level, .integer _ | level, .real _ | level, .text _
  | level, .unrepresentable => by rw [spacedAt, prettyAt] <;> nofun

/-- On lines of their own the items are those of the pretty printer. -/
theorem spacedItems_lines : ∀ (level : Nat) (items : List Json),
    spacedItems .lines level items = prettyItems level items
  | level, [] => by rw [spacedItems, prettyItems]; rfl
  | level, item :: items => by
    rw [spacedItems, prettyItems, spacedAt_lines, spacedItems_lines, List.append_assoc]
    rfl

/-- On lines of their own the members are those of the pretty printer. -/
theorem spacedMembers_lines : ∀ (level : Nat) (members : List (String × Json)),
    spacedMembers .lines level members = prettyMembers level members
  | level, [] => by rw [spacedMembers, prettyMembers]; rfl
  | level, (name, value) :: members => by
    rw [spacedMembers, prettyMembers, spacedAt_lines, spacedMembers_lines]
    simp only [List.append_assoc]
    rfl

end

section Spaced

variable (gap : Spacing) (level : Nat)

/-- An integer has no parts and is written alike at each spacing. -/
theorem spacedAt_integer (i : Int) : spacedAt gap level (.integer i) = intDigits i := rfl

/-- Neither has a real any. -/
theorem spacedAt_real (x : Binary64) : spacedAt gap level (.real x) = Layout.json.number x := rfl

/-- The blanks inside a string are its own. -/
theorem spacedAt_text (s : String) : spacedAt gap level (.text s) = quoted s := rfl

/-- What a value's text starts with ends no array and is no blank. -/
theorem exists_spacedAt_eq_cons (j : Json) :
    ∃ c cs, spacedAt gap level j = c :: cs ∧ isSpace c = false ∧ c ≠ ']' := by
  -- A number starts with a digit or a minus, and neither is a blank or a bracket.
  have number : ∀ t : NumberToken, ∃ c cs, t.text = c :: cs ∧ isSpace c = false ∧ c ≠ ']' := by
    intro t
    obtain ⟨c, cs, head, digit | rfl⟩ := t.head?_text
    · refine ⟨c, cs, head, ?_, ?_⟩
      · refine Bool.eq_false_iff.2 fun space => ?_
        simp only [isSpace, Bool.or_eq_true, beq_iff_eq] at space
        rcases space with ((rfl | rfl) | rfl) | rfl <;> exact absurd digit (by decide)
      · rintro rfl
        exact absurd digit (by decide)
    · exact ⟨'-', cs, head, rfl, by decide⟩
  cases j with
  | null => exact ⟨'n', _, rfl, rfl, by decide⟩
  | boolean b => cases b <;> exact ⟨_, _, rfl, rfl, by decide⟩
  | integer i =>
    rw [spacedAt_integer, ← NumberToken.text_ofInt]
    exact number _
  | real x =>
    rw [spacedAt_real]
    cases x with
    | nan => exact ⟨'n', _, rfl, rfl, by decide⟩
    | infinite negative => cases negative <;> exact ⟨'n', _, rfl, rfl, by decide⟩
    | finite negative x =>
      obtain ⟨t, -, text⟩ := NumberToken.exists_decimal negative (x.shortest Layout.json.tie)
      rw [Layout.number, ← text]
      exact number t
  | text s => exact ⟨'"', _, rfl, rfl, by decide⟩
  | array items => cases items <;> exact ⟨'[', _, rfl, rfl, by decide⟩
  | object members =>
    rcases members with _ | ⟨⟨name, value⟩, members⟩ <;>
      exact ⟨'\x7b', _, rfl, rfl, by decide⟩
  | unrepresentable => exact ⟨'n', _, rfl, rfl, by decide⟩

/-- Blanks and what no number goes on with end a number. -/
theorem EndsNumber.append {blanks : List Char} (blank : ∀ c ∈ blanks, isSpace c = true)
    {rest : List Char} (stops : EndsNumber rest) : EndsNumber (blanks ++ rest) := by
  cases blanks with
  | nil => exact stops
  | cons c blanks =>
    have first := blank c (List.mem_cons_self ..)
    simp only [isSpace, Bool.or_eq_true, beq_iff_eq] at first
    refine .cons _ ?_
    rcases first with ((rfl | rfl) | rfl) | rfl <;> decide

/-- Behind an item stands a comma or, after blanks, the closing bracket. -/
theorem endsNumber_spacedItems (items : List Json) (rest : List Char) :
    EndsNumber (spacedItems gap level items ++ rest) := by
  cases items with
  | nil =>
    rw [spacedItems, List.append_assoc]
    exact .append (gap.line_blank level) (.cons _ (by decide))
  | cons item items =>
    rw [spacedItems]
    exact .cons _ (by decide)

/-- Behind a member's value stands a comma or, after blanks, the closing brace. -/
theorem endsNumber_spacedMembers (members : List (String × Json)) (rest : List Char) :
    EndsNumber (spacedMembers gap level members ++ rest) := by
  rcases members with _ | ⟨⟨name, value⟩, members⟩
  · rw [spacedMembers, List.append_assoc]
    exact .append (gap.line_blank level) (.cons _ (by decide))
  · rw [spacedMembers]
    exact .cons _ (by decide)

end Spaced

mutual

/-- **A value is read as a whole**, wherever it stands, if what follows cannot continue a number.
Only a number needs the condition; all other values show where they end.  The fuel is measured by
the text, and an item of an array gets what is left behind the ones before it. -/
theorem readValue?_spacedAt (gap : Spacing) : ∀ (level : Nat) (j : Json) (fuel : Nat)
    (rest : List Char), 2 * (spacedAt gap level j).length ≤ fuel → EndsNumber rest →
      readValue? fuel (spacedAt gap level j ++ rest) = some (j.reread, rest)
  | level, j, 0, rest, enough, _ => by
    obtain ⟨c, cs, head, -⟩ := exists_spacedAt_eq_cons gap level j
    rw [head, List.length_cons] at enough
    omega
  | level, .null, fuel + 1, rest, _, _ => rfl
  | level, .boolean true, fuel + 1, rest, _, _ => rfl
  | level, .boolean false, fuel + 1, rest, _, _ => rfl
  | level, .integer i, fuel + 1, rest, _, stops => by
    rw [spacedAt_integer, ← NumberToken.text_ofInt, NumberToken.readValue?_append _ stops, reread]
  | level, .real .nan, fuel + 1, rest, _, _ => rfl
  | level, .real (.infinite negative), fuel + 1, rest, _, _ => by
    cases negative <;> rfl
  | level, .real (.finite negative x), fuel + 1, rest, _, stops => by
    have reads := readNumber?_number negative x stops
    obtain ⟨t, -, text⟩ := NumberToken.exists_decimal negative (x.shortest Layout.json.tie)
    rw [Layout.number, ← text] at reads
    rw [spacedAt_real, Layout.number, ← text, t.readValue?_append stops,
      ← t.readNumber?_append stops, reads, reread]
  | level, .text s, fuel + 1, rest, _, _ => by
    rw [spacedAt_text, readValue?_quoted, reread]
  | level, .array [], fuel + 1, rest, _, _ => rfl
  | level, .array (item :: items), fuel + 1, rest, enough, _ => by
    simp only [spacedAt, List.length_cons, List.length_append] at enough
    have value := readValue?_spacedAt gap (level + 1) item (fuel - 1)
      (spacedItems gap level items ++ rest) (by omega) (endsNumber_spacedItems gap level items rest)
    -- The first item is read here, the others by the companion lemma that starts behind it.
    have more := readItems?_spacedItems gap level items (fuel - 1) rest _ _ (by omega) value
    obtain ⟨c, cs, head, space, other⟩ := exists_spacedAt_eq_cons gap (level + 1) item
    rw [Nat.sub_add_cancel (by omega), head, List.cons_append] at more
    rw [spacedAt, List.cons_append, List.append_assoc, List.append_assoc, head, List.cons_append,
      readValue?_bracket (gap.line_blank _) space other, more, reread, rereadItems]
    rfl
  | level, .object [], fuel + 1, rest, _, _ => rfl
  | level, .object ((name, value) :: members), fuel + 1, rest, enough, _ => by
    simp only [spacedAt, List.length_cons, List.length_append] at enough
    have reads := readValue?_spacedAt gap (level + 1) value (fuel - 1)
      (spacedMembers gap level members ++ rest) (by omega)
      (endsNumber_spacedMembers gap level members rest)
    have more := readMembers?_spacedMembers gap level members (fuel - 1) rest _ name _ (by omega)
      reads
    rw [Nat.sub_add_cancel (by omega), quoted, List.cons_append] at more
    rw [spacedAt, List.cons_append, List.append_assoc, List.append_assoc, quoted,
      List.cons_append, readValue?_brace (gap.line_blank _)]
    simp only [List.append_assoc, List.cons_append] at more ⊢
    rw [more, reread, rereadMembers]
    rfl
  | level, .unrepresentable, fuel + 1, rest, _, _ => rfl

/-- The items of an array are read up to its closing bracket, after the first one.  The induction is
on the items that are left, with the first one read already, since the reader looks for a comma only
behind an item; the bound on the fuel is twice the text that is left. -/
theorem readItems?_spacedItems (gap : Spacing) : ∀ (level : Nat) (items : List Json) (fuel : Nat)
    (rest cs : List Char) (first : Json), 2 * (spacedItems gap level items).length ≤ fuel + 1 →
      readValue? fuel cs = some (first, spacedItems gap level items ++ rest) →
        readItems? (fuel + 1) cs = some (first :: rereadItems items, rest)
  | level, [], fuel, rest, cs, first, _, value => by
    simp only [readItems?, value, Option.bind_eq_bind, Option.bind_some, spacedItems,
      List.append_assoc, skipSpace_append (gap.line_blank level), List.singleton_append,
      skipSpace_cons _ (show isSpace ']' = false from rfl), rereadItems]
    rfl
  | level, item :: items, fuel, rest, cs, first, enough, value => by
    simp only [spacedItems, List.length_cons, List.length_append] at enough
    have reads := readValue?_spacedAt gap (level + 1) item (fuel - 1)
      (spacedItems gap level items ++ rest) (by omega) (endsNumber_spacedItems gap level items rest)
    rw [← readValue?_append (gap.line_blank (level + 1))] at reads
    have more := readItems?_spacedItems gap level items (fuel - 1) rest _ _ (by omega) reads
    rw [Nat.sub_add_cancel (by omega)] at more
    simp only [readItems?, value, Option.bind_eq_bind, Option.bind_some, spacedItems,
      List.cons_append, List.append_assoc, skipSpace_cons _ (show isSpace ',' = false from rfl),
      more, rereadItems]
    rfl

/-- The members of an object are read up to its closing brace, after the value of the
first one. -/
theorem readMembers?_spacedMembers (gap : Spacing) : ∀ (level : Nat)
    (members : List (String × Json)) (fuel : Nat) (rest cs : List Char) (name : String)
    (first : Json), 2 * (spacedMembers gap level members).length ≤ fuel + 1 →
      readValue? fuel cs = some (first, spacedMembers gap level members ++ rest) →
        readMembers? (fuel + 1) (quoted name ++ ':' :: (gap.colon ++ cs)) =
          some (some ((name, first) :: rereadMembers members), rest)
  | level, [], fuel, rest, cs, name, first, _, value => by
    rw [quoted, List.cons_append, List.append_assoc, List.singleton_append, readMembers?,
      skipSpace_cons _ rfl]
    simp only [readString?_flatMap_escapeChar, readValue?_append gap.colon_blank, value,
      Option.bind_eq_bind, Option.bind_some, skipSpace_cons _ (show isSpace ':' = false from rfl),
      spacedMembers, List.append_assoc, skipSpace_append (gap.line_blank level),
      List.singleton_append, skipSpace_cons _ (show isSpace '\x7d' = false from rfl), consMember,
      Option.map_some, String.ofList_toList, rereadMembers]
    rfl
  | level, (other, second) :: members, fuel, rest, cs, name, first, enough, value => by
    simp only [spacedMembers, List.length_cons, List.length_append] at enough
    have reads := readValue?_spacedAt gap (level + 1) second (fuel - 1)
      (spacedMembers gap level members ++ rest) (by omega)
      (endsNumber_spacedMembers gap level members rest)
    have more := readMembers?_spacedMembers gap level members (fuel - 1) rest _ other _ (by omega)
      reads
    rw [Nat.sub_add_cancel (by omega), ← readMembers?_append (gap.line_blank (level + 1))] at more
    rw [quoted, List.cons_append, List.append_assoc, List.singleton_append, readMembers?,
      skipSpace_cons _ rfl]
    simp only [readString?_flatMap_escapeChar, readValue?_append gap.colon_blank, value,
      Option.bind_eq_bind, Option.bind_some, skipSpace_cons _ (show isSpace ':' = false from rfl),
      spacedMembers, List.cons_append, List.append_assoc,
      skipSpace_cons _ (show isSpace ',' = false from rfl), more, consMember,
      Option.map_some, String.ofList_toList, rereadMembers]
    rfl

end

/-- A value that makes up the whole text is read with the fuel the reader gives itself, and nothing
is left over. -/
theorem readChars?_spacedAt (gap : Spacing) (level : Nat) (j : Json) :
    readChars? (spacedAt gap level j) = some j.reread := by
  have reads := readValue?_spacedAt gap level j (2 * (spacedAt gap level j).length + 2) []
    (by omega) .nil
  rw [List.append_nil] at reads
  rw [readChars?, reads]
  rfl

/-- **The text of a value is read as what its parts are read as.**  No value has a text that is
refused. -/
theorem read?_print (j : Json) : read? (print j) = some j.reread := by
  rw [read?, print, String.toList_ofList, ← spacedAt_none 0, readChars?_spacedAt]

/-- **So is its text with the parts on lines of their own.**  The reader does not see the
difference. -/
theorem read?_printPretty (j : Json) : read? (printPretty j) = some j.reread := by
  rw [read?, printPretty, String.toList_ofList, ← spacedAt_lines, readChars?_spacedAt]

end Json
end PagedQuery
