/-
# The formats of a timestamp exclude one another

All formats start with the date.  What stands behind it tells which of them a text can fit:

| behind the date | behind the minute | format |
| --- | --- | --- |
| nothing | | date |
| `T` | | date, `T`, time, fraction |
| blanks and an hour | nothing | date, blank, hour and minute |
| blanks and an hour | `:` | date, blank, time, fraction |

So no text fits two formats (`readFormat?_unique`), and the order in which they are tried does
not matter (`findSome?_readFormat?_of_perm`).
-/

import PagedQuery.Timestamp

namespace PagedQuery
namespace Timestamp

variable {ps qs : List Part} {cs : List Char}

/-! ### What a format leaves of a text -/

/-- What a part leaves of a text, whatever number it reads there. -/
def Part.after? : Part → List Char → Option (List Char)
  | .year, cs => (readYear? cs).map Prod.snd
  | .month, cs | .day, cs | .hour, cs | .minute, cs | .second, cs => (readNumber? cs).map Prod.snd
  | .fraction, cs => (readFraction? cs).map Prod.snd
  | .blanks, cs => some (Text.trimStart cs)
  | .mark _, [] => none
  | .mark m, c :: cs => if c = m then some cs else none

/-- What the parts of a format leave of a text, one after another. -/
def after? (ps : List Part) (cs : List Char) : Option (List Char) :=
  ps.foldlM (fun rest p => p.after? rest) cs

/-- A format takes its parts off one after another. -/
theorem after?_cons (p : Part) :
    after? (p :: ps) cs = (p.after? cs).bind fun rest => after? ps rest :=
  List.foldlM_cons

/-- A format in two halves takes the first half off, then the second. -/
theorem after?_append_eq_some_iff {left : List Char} :
    after? (ps ++ qs) cs = some left ↔
      ∃ rest, after? ps cs = some rest ∧ after? qs rest = some left := by
  rw [after?, List.foldlM_append]
  exact Option.bind_eq_some_iff

/-- A format that fits leaves nothing. -/
theorem after?_of_readParts {f g : Fields} (h : readParts ps f cs = some g) :
    after? ps cs = some [] := by
  induction ps generalizing f cs with
  | nil =>
    cases cs with
    | nil => rfl
    | cons c cs => simp [readParts] at h
  | cons p ps ih =>
    rw [after?_cons]
    -- Reading a part takes off what `after?` takes off; the number it reads does not matter.
    cases p with
    | year | month | day | hour | minute | second | fraction =>
      obtain ⟨⟨n, rest⟩, read, h⟩ := Option.bind_eq_some_iff.1 h
      simp [Part.after?, read, ih h]
    | blanks => exact ih h
    | mark m =>
      cases cs with
      | nil => simp [readParts] at h
      | cons c cs =>
        rw [readParts] at h
        split at h
        · next same => simp [Part.after?, same, ih h]
        · cases h

/-- A mark stands at the start of what it is read from. -/
theorem exists_of_after?_mark {m : Char} {left : List Char}
    (h : after? (.mark m :: ps) cs = some left) : ∃ rest, cs = m :: rest := by
  rw [after?_cons] at h
  cases cs with
  | nil => simp [Part.after?] at h
  | cons c cs =>
    by_cases same : c = m
    · exact ⟨cs, by rw [same]⟩
    · simp [Part.after?, same] at h

/-! ### The format a text can fit -/

/-- The parts of a date. -/
def date : List Part :=
  [.year, .mark '-', .month, .mark '-', .day]

/-- The parts of a blank, an hour and a minute. -/
def toMinute : List Part :=
  [.blanks, .hour, .mark ':', .minute]

/-- The parts from the second on. -/
def fromSecond : List Part :=
  [.mark ':', .second, .fraction]

/-- The parts of a `T` and a time. -/
def marked : List Part :=
  [.mark 'T', .hour, .mark ':', .minute, .mark ':', .second, .fraction]

/-- All formats begin with the date, and the longest is the one with the minute and more. -/
theorem formats_eq :
    formats = [date ++ (toMinute ++ fromSecond), date ++ marked, date ++ toMinute, date] :=
  rfl

/-- The parts that can follow the date in a text, told by what is left behind the date and,
where an hour stands there, behind the minute. -/
def partsBehind (rest : List Char) : List Part :=
  match rest with
  | [] => []
  | 'T' :: _ => marked
  | rest => if after? toMinute rest = some [] then toMinute else toMinute ++ fromSecond

/-- The format a text can fit, told by what stands behind the date and the minute.  Whether the text
fits it is another question. -/
def formatOf (cs : List Char) : List Part :=
  date ++ ((after? date cs).map partsBehind).getD []

/-- Behind a date that was read the parts are told by what is left. -/
theorem formatOf_eq {rest : List Char} (dated : after? date cs = some rest) :
    formatOf cs = date ++ partsBehind rest := by
  rw [formatOf, dated]
  rfl

/-- Where an hour stands behind the date, there is something else than a `T`. -/
theorem partsBehind_of_after?_toMinute {rest left : List Char}
    (h : after? toMinute rest = some left) :
    partsBehind rest = if left = [] then toMinute else toMinute ++ fromSecond := by
  have nonempty : rest ≠ [] := by
    rintro rfl
    cases h
  have unmarked : ∀ cs, rest ≠ 'T' :: cs := by
    rintro cs rfl
    have refused : (readNumber? (Text.trimStart ('T' :: cs))).map Prod.snd = none := rfl
    rw [toMinute, after?_cons, Part.after?, Option.bind_some, after?_cons, Part.after?, refused] at h
    cases h
  unfold partsBehind
  split
  · exact absurd rfl nonempty
  · next cs => exact absurd rfl (unmarked cs)
  · simp only [h, Option.some_inj]

/-- **A text fits no other format** than the one that is told by its date and its minute.  A format
takes all of the text, so what is left behind the date is known. -/
theorem eq_formatOf {format : List Part} {t : Timestamp} (known : format ∈ formats)
    (h : readFormat? format cs = some t) : format = formatOf cs := by
  obtain ⟨fields, read, -⟩ := Option.bind_eq_some_iff.1 h
  have nothing := after?_of_readParts read
  rw [formats_eq] at known
  simp only [List.mem_cons, List.not_mem_nil, or_false] at known
  rcases known with rfl | rfl | rfl | rfl
  -- The four formats in their order: in each the date has been taken off, and what is left shows
  -- the format.
  · obtain ⟨rest, dated, timed⟩ := after?_append_eq_some_iff.1 nothing
    obtain ⟨left, short, long⟩ := after?_append_eq_some_iff.1 timed
    obtain ⟨left, rfl⟩ := exists_of_after?_mark long
    rw [formatOf_eq dated, partsBehind_of_after?_toMinute short, if_neg (List.cons_ne_nil _ _)]
  · obtain ⟨rest, dated, timed⟩ := after?_append_eq_some_iff.1 nothing
    obtain ⟨rest, rfl⟩ := exists_of_after?_mark timed
    rw [formatOf_eq dated]
    rfl
  · obtain ⟨rest, dated, short⟩ := after?_append_eq_some_iff.1 nothing
    rw [formatOf_eq dated, partsBehind_of_after?_toMinute short, if_pos rfl]
  · rw [formatOf_eq nothing]
    rfl

/-- Two formats that a text fits are the same. -/
theorem readFormat?_unique {format other : List Part} {t u : Timestamp} (known : format ∈ formats)
    (known' : other ∈ formats) (h : readFormat? format cs = some t)
    (h' : readFormat? other cs = some u) : format = other ∧ t = u := by
  have same : format = other := (eq_formatOf known h).trans (eq_formatOf known' h').symm
  subst same
  rw [h] at h'
  exact ⟨rfl, Option.some.inj h'⟩

/-! ### The order of the formats -/

/-- Which formats there are decides what is read. -/
theorem findSome?_readFormat?_eq_some_iff {fs : List (List Part)} {t : Timestamp}
    (known : ∀ format ∈ fs, format ∈ formats) :
    (fs.findSome? fun format => readFormat? format cs) = some t ↔
      ∃ format ∈ fs, readFormat? format cs = some t := by
  constructor
  · exact List.exists_of_findSome?_eq_some
  · rintro ⟨format, inside, read⟩
    have found : (fs.findSome? fun format => readFormat? format cs).isSome = true :=
      List.findSome?_isSome_iff.2 ⟨format, inside, by rw [read]; rfl⟩
    obtain ⟨u, first⟩ := Option.isSome_iff_exists.1 found
    obtain ⟨other, inside', read'⟩ := List.exists_of_findSome?_eq_some first
    rw [first, (readFormat?_unique (known _ inside') (known _ inside) read' read).2]

/-- **The order of the formats does not matter.**  At most one of them reads a text, and it is found
wherever it stands. -/
theorem findSome?_readFormat?_of_perm {fs : List (List Part)} (same : fs.Perm formats)
    (cs : List Char) :
    (fs.findSome? fun format => readFormat? format cs) =
      formats.findSome? fun format => readFormat? format cs := by
  ext t
  rw [findSome?_readFormat?_eq_some_iff fun format => same.mem_iff.1,
    findSome?_readFormat?_eq_some_iff fun format => id]
  simp only [same.mem_iff]

end Timestamp
end PagedQuery
