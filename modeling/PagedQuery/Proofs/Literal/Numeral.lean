/-
# The grammar of numeric literals

A numeric value is put into SQL as it stands, without quotes, so what it may be is a grammar: a
sign or none; then digits, digits and a point, digits around a point, or a point and digits; then
possibly `e` or `E`, a sign or none, and digits.

`IsDecimal` is this grammar over any class of digits.  The class matters, because the check
accepts the decimal digits of every script (`isNumeric_iff`) while the SQL grammar knows only the
ASCII ones.  The two readings of "a decimal number" are therefore kept apart by a parameter and
not by two grammars: what passes is a number over the larger class, what is ASCII among it is a
number over the smaller one (`render_numeric_iff`), and the classes differ
(`render_foreign_digit`).
-/

import PagedQuery.Dialect.Product
import PagedQuery.Literal
import PagedQuery.Proofs.Action

namespace PagedQuery
namespace Literal

/-- A sign or none. -/
inductive IsSign : List Char → Prop
  | none : IsSign []
  | plus : IsSign ['+']
  | minus : IsSign ['-']

section Grammar

variable (isDigit : Char → Bool)

/-- The digits of a number before its exponent, with a point or without.  A point may stand in front
of the digits or behind them, but not alone. -/
inductive IsMantissa : List Char → Prop
  | whole {ds : List Char} (nonempty : ds ≠ []) (digits : ∀ d ∈ ds, isDigit d = true) : IsMantissa ds
  | pointed {ds fs : List Char} (nonempty : ds ≠ []) (digits : ∀ d ∈ ds, isDigit d = true)
      (fraction : ∀ d ∈ fs, isDigit d = true) : IsMantissa (ds ++ '.' :: fs)
  | fraction {fs : List Char} (nonempty : fs ≠ []) (fraction : ∀ d ∈ fs, isDigit d = true) :
      IsMantissa ('.' :: fs)

/-- An exponent or none.  Its sign may be missing, its digits may not. -/
inductive IsExponent : List Char → Prop
  | none : IsExponent []
  | written {e : Char} {sign ds : List Char} (letter : e = 'e' ∨ e = 'E') (signed : IsSign sign)
      (nonempty : ds ≠ []) (digits : ∀ d ∈ ds, isDigit d = true) : IsExponent (e :: (sign ++ ds))

/-- A decimal number. -/
inductive IsDecimal : List Char → Prop
  | intro {sign mantissa exponent : List Char} (signed : IsSign sign)
      (number : IsMantissa isDigit mantissa) (power : IsExponent isDigit exponent) :
      IsDecimal (sign ++ (mantissa ++ exponent))

end Grammar

section Characters

variable {isDigit isDigit' : Char → Bool} {cs sign : List Char}

/-- A sign holds signs only. -/
theorem IsSign.eq_of_mem (h : IsSign sign) : ∀ c ∈ sign, c = '+' ∨ c = '-' := by
  cases h <;> simp

/-- A mantissa holds digits and points. -/
theorem IsMantissa.of_mem (h : IsMantissa isDigit cs) : ∀ c ∈ cs, isDigit c = true ∨ c = '.' := by
  intro c inside
  cases h with
  | whole _ digits => exact .inl (digits c inside)
  | pointed _ digits fraction =>
    rcases List.mem_append.1 inside with before | after
    · exact .inl (digits c before)
    · exact (List.mem_cons.1 after).symm.imp_left (fraction c)
  | fraction _ fraction => exact (List.mem_cons.1 inside).symm.imp_left (fraction c)

/-- A mantissa has at least one character, so what stands before an exponent is never empty. -/
theorem IsMantissa.ne_nil (h : IsMantissa isDigit cs) : cs ≠ [] := by
  cases h with
  | whole nonempty _ => exact nonempty
  | pointed => simp
  | fraction => simp

/-- A number holds digits, signs, points and the letter of its exponent. -/
theorem IsDecimal.of_mem (h : IsDecimal isDigit cs) :
    ∀ c ∈ cs, isDigit c = true ∨ c ∈ ['+', '-', '.', 'e', 'E'] := by
  obtain ⟨signed, number, power⟩ := h
  have ofSign {sign : List Char} (signed : IsSign sign) :
      ∀ c ∈ sign, isDigit c = true ∨ c ∈ ['+', '-', '.', 'e', 'E'] := fun c inside => by
    rcases signed.eq_of_mem c inside with rfl | rfl <;> simp
  intro c inside
  rcases List.mem_append.1 inside with inside | inside
  · exact ofSign signed c inside
  rcases List.mem_append.1 inside with inside | inside
  · exact (number.of_mem c inside).imp_right fun same => by simp [same]
  cases power with
  | none => cases inside
  | written letter signed _ digits =>
    rcases List.mem_cons.1 inside with rfl | inside
    · rcases letter with rfl | rfl <;> simp
    · exact (List.mem_append.1 inside).elim (ofSign signed c) fun digit => .inl (digits c digit)

/-- A mantissa over one class of digits is one over another that has its digits.  It is enough that
the second class has those digits that are in the text. -/
theorem IsMantissa.mono (h : IsMantissa isDigit cs)
    (digits : ∀ c ∈ cs, isDigit c = true → isDigit' c = true) : IsMantissa isDigit' cs := by
  cases h with
  | whole nonempty all => exact .whole nonempty fun d inside => digits d inside (all d inside)
  | pointed nonempty all fraction =>
    exact .pointed nonempty (fun d inside => digits d (by simp [inside]) (all d inside))
      fun d inside => digits d (by simp [inside]) (fraction d inside)
  | fraction nonempty fraction =>
    exact .fraction nonempty fun d inside => digits d (by simp [inside]) (fraction d inside)

/-- An exponent over one class of digits is one over another that has its digits. -/
theorem IsExponent.mono (h : IsExponent isDigit cs)
    (digits : ∀ c ∈ cs, isDigit c = true → isDigit' c = true) : IsExponent isDigit' cs := by
  cases h with
  | none => exact .none
  | written letter signed nonempty all =>
    exact .written letter signed nonempty fun d inside => digits d (by simp [inside]) (all d inside)

/-- A number over one class of digits is one over another that has its digits.  This is how a number
with ASCII digits alone is found among those that pass. -/
theorem IsDecimal.mono (h : IsDecimal isDigit cs)
    (digits : ∀ c ∈ cs, isDigit c = true → isDigit' c = true) : IsDecimal isDigit' cs := by
  obtain ⟨signed, number, power⟩ := h
  exact .intro signed (number.mono fun c inside => digits c (by simp [inside]))
    (power.mono fun c inside => digits c (by simp [inside]))

end Characters

/-! ### The check against the grammar -/

section Check

variable {cs ds rest sign : List Char}

/-- What a text goes on with after its sign.  The check drops one sign if there is one, and never
looks at it again. -/
theorem exists_sign (cs : List Char) : ∃ sign, IsSign sign ∧ cs = sign ++ dropSign cs := by
  unfold dropSign
  split
  · exact ⟨['+'], .plus, rfl⟩
  · exact ⟨['-'], .minus, rfl⟩
  · exact ⟨[], .none, rfl⟩

/-- A sign is passed over, and what starts with none loses nothing.  The second part matters to a
mantissa, which may not start with a second sign. -/
theorem dropSign_append (signed : IsSign sign)
    (unsigned : cs.head? ≠ some '+' ∧ cs.head? ≠ some '-') : dropSign (sign ++ cs) = cs := by
  cases signed with
  | none =>
    cases cs with
    | nil => rfl
    | cons c cs =>
      obtain ⟨plus, minus⟩ := unsigned
      rw [List.nil_append]
      unfold dropSign
      split
      · next same => exact absurd (congrArg List.head? same) plus
      · next same => exact absurd (congrArg List.head? same) minus
      · rfl
  | plus => rfl
  | minus => rfl

/-- Digits are passed over up to the first character that is none. -/
theorem dropWhile_digits_append (digits : ∀ d ∈ ds, Text.isDecimalDigit d = true)
    (stops : ∀ c ∈ rest.head?, Text.isDecimalDigit c = false) :
    (ds ++ rest).dropWhile Text.isDecimalDigit = rest := by
  rw [List.dropWhile_append_of_pos digits]
  cases rest with
  | nil => rfl
  | cons c rest => exact List.dropWhile_cons_of_neg (by simp [stops c rfl])

/-- What is read as a mantissa is one.  What it is followed by is left for the exponent, whatever it
is. -/
theorem exists_isMantissa (h : afterMantissa? cs = some rest) :
    ∃ mantissa, IsMantissa Text.isDecimalDigit mantissa ∧ cs = mantissa ++ rest := by
  have digits (cs : List Char) : ∀ d ∈ cs.takeWhile Text.isDecimalDigit,
      Text.isDecimalDigit d = true := fun d inside =>
    List.all_eq_true.1 List.all_takeWhile d inside
  have starts {cs : List Char} (first : (cs.head?.map Text.isDecimalDigit).getD false = true) :
      cs.takeWhile Text.isDecimalDigit ≠ [] := by
    cases cs with
    | nil => cases first
    | cons c cs =>
      rw [List.takeWhile_cons_of_pos (by simpa using first)]
      exact List.cons_ne_nil _ _
  have whole := List.takeWhile_append_dropWhile (p := Text.isDecimalDigit) (l := cs)
  simp only [afterMantissa?] at h
  split at h
  · next fraction point =>
    rw [point] at whole
    have parts := List.takeWhile_append_dropWhile (p := Text.isDecimalDigit) (l := fraction)
    split at h
    · next either =>
      obtain rfl := Option.some.inj h
      by_cases hasWhole : cs.takeWhile Text.isDecimalDigit = []
      -- Without digits before the point there must be one behind it.
      · rw [Bool.or_eq_true] at either
        have fractional := either.resolve_left fun first => starts first hasWhole
        rw [hasWhole, List.nil_append] at whole
        exact ⟨_, .fraction (starts fractional) (digits fraction), by simp [parts, ← whole]⟩
      · exact ⟨_, .pointed hasWhole (digits cs) (digits fraction), by simp [parts, whole]⟩
    · cases h
  · split at h
    · next hasWhole =>
      obtain rfl := Option.some.inj h
      exact ⟨_, .whole (starts hasWhole) (digits cs), whole.symm⟩
    · cases h

/-- A mantissa is read up to what is neither a digit nor a point. -/
theorem IsMantissa.afterMantissa?_append (h : IsMantissa Text.isDecimalDigit cs)
    (stops : ∀ c ∈ rest.head?, Text.isDecimalDigit c = false ∧ c ≠ '.') :
    afterMantissa? (cs ++ rest) = some rest := by
  -- The point ends a run of digits, and what follows does so as well.
  have point : Text.isDecimalDigit '.' = false := by decide +kernel
  have ends : ∀ c ∈ rest.head?, Text.isDecimalDigit c = false := fun c first => (stops c first).1
  cases h with
  | @whole ds nonempty digits =>
    obtain ⟨d, ds, rfl⟩ := List.exists_cons_of_ne_nil nonempty
    simp only [afterMantissa?, dropWhile_digits_append digits ends]
    have first := digits d (List.mem_cons_self ..)
    split
    · next fraction => exact absurd rfl (stops '.' rfl).2
    · simp [first]
  | @pointed ds fs nonempty digits fraction =>
    obtain ⟨d, ds, rfl⟩ := List.exists_cons_of_ne_nil nonempty
    have first := digits d (List.mem_cons_self ..)
    have after : (d :: ds ++ '.' :: (fs ++ rest)).dropWhile Text.isDecimalDigit =
        '.' :: (fs ++ rest) := dropWhile_digits_append digits (by simp [point])
    rw [List.append_assoc]
    show afterMantissa? (d :: ds ++ '.' :: (fs ++ rest)) = some rest
    simp only [afterMantissa?, after, dropWhile_digits_append fraction ends]
    simp [first]
  -- No digit before the point, so there must be one behind it.
  | @fraction fs nonempty fraction =>
    obtain ⟨f, fs, rfl⟩ := List.exists_cons_of_ne_nil nonempty
    have first := fraction f (List.mem_cons_self ..)
    have after : ('.' :: (f :: fs ++ rest)).dropWhile Text.isDecimalDigit =
        '.' :: (f :: fs ++ rest) := List.dropWhile_cons_of_neg (by simp [point])
    rw [List.cons_append]
    simp only [afterMantissa?, after, dropWhile_digits_append fraction ends]
    simp [first]

/-- What passes as the end of a number is an exponent or nothing.  The check looks for a letter,
drops a sign and wants digits to the end, which are the parts of the grammar in their order. -/
theorem isExponent_iff : isExponent cs = true ↔ IsExponent Text.isDecimalDigit cs := by
  constructor
  · intro h
    cases cs with
    | nil => exact .none
    | cons e cs =>
      simp only [isExponent, Bool.and_eq_true, Bool.or_eq_true, beq_iff_eq, Bool.not_eq_true',
        List.isEmpty_eq_false_iff, List.all_eq_true] at h
      obtain ⟨⟨letter, nonempty⟩, digits⟩ := h
      obtain ⟨sign, signed, whole⟩ := exists_sign cs
      rw [whole]
      exact .written letter signed nonempty digits
  · intro h
    cases h with
    | none => rfl
    | @written e sign ds letter signed nonempty digits =>
      -- The digits do not start with a sign, so no more than one is dropped.
      have unsigned {c : Char} (other : Text.isDecimalDigit c = false) : ds.head? ≠ some c := by
        intro first
        rw [digits c (List.mem_of_mem_head? first)] at other
        cases other
      have rest : dropSign (sign ++ ds) = ds :=
        dropSign_append signed ⟨unsigned (by decide +kernel), unsigned (by decide +kernel)⟩
      simp only [isExponent, rest, Bool.and_eq_true, Bool.or_eq_true, beq_iff_eq,
        Bool.not_eq_true', List.isEmpty_eq_false_iff, List.all_eq_true]
      exact ⟨⟨letter, nonempty⟩, digits⟩

/-- **What passes the check for numbers is the grammar over the digits of every script.** Nothing is
lost by reading the parts one after another: a mantissa ends where no digit and no point goes on
with it, and what is behind it can only be an exponent. -/
theorem isNumeric_iff : isNumeric cs = true ↔ IsDecimal Text.isDecimalDigit cs := by
  constructor
  · intro h
    obtain ⟨sign, signed, whole⟩ := exists_sign cs
    unfold isNumeric at h
    split at h
    · next rest after =>
      obtain ⟨mantissa, number, split⟩ := exists_isMantissa after
      rw [whole, split]
      exact .intro signed number (isExponent_iff.1 h)
    · cases h
  · rintro ⟨signed, number, power⟩
    next sign mantissa exponent =>
    have stops : ∀ c ∈ exponent.head?, Text.isDecimalDigit c = false ∧ c ≠ '.' := by
      intro c first
      cases power with
      | none => cases first
      | written letter _ _ _ =>
        obtain rfl := Option.some.inj first
        rcases letter with rfl | rfl <;> exact ⟨by decide +kernel, by decide⟩
    -- The mantissa must not start with a sign, or a second one would be passed over with the
    -- first.
    have unsigned {c : Char} (other : Text.isDecimalDigit c = false ∧ c ≠ '.') :
        (mantissa ++ exponent).head? ≠ some c := by
      intro first
      have inside : c ∈ mantissa := by
        obtain ⟨d, ds, rfl⟩ := List.exists_cons_of_ne_nil number.ne_nil
        obtain rfl := Option.some.inj first
        exact List.mem_cons_self ..
      rcases number.of_mem c inside with digit | point
      · rw [other.1] at digit
        cases digit
      · exact other.2 point
    unfold isNumeric
    rw [dropSign_append signed ⟨unsigned ⟨by decide +kernel, by decide⟩,
      unsigned ⟨by decide +kernel, by decide⟩⟩, number.afterMantissa?_append stops]
    exact isExponent_iff.2 power

end Check

/-! ### Numeric literals -/

/-- **A numeric value passes exactly if it is a decimal number over the digits of every
script**, and what is written is the value without the blanks around it: nothing but digits,
signs, points and the letter of an exponent.  So the values that SQL's grammar knows are those
that pass and hold ASCII digits only. -/
theorem render_numeric_iff (d : Dialect) (value : List Char) :
    (∀ text, render d .numeric value = .ok text ↔
      text = Text.trim value ∧ IsDecimal Text.isDecimalDigit text) ∧
    (∀ text, render d .numeric value = .ok text →
      ∀ c ∈ text, Text.isDecimalDigit c = true ∨ c ∈ ['+', '-', '.', 'e', 'E']) ∧
    (IsDecimal Char.isDigit (Text.trim value) ↔
      (∃ text, render d .numeric value = .ok text) ∧
        ∀ c ∈ Text.trim value, Text.isDecimalDigit c = true → c.isDigit = true) := by
  have passes (text : List Char) : render d .numeric value = .ok text ↔
      text = Text.trim value ∧ IsDecimal Text.isDecimalDigit text := by
    simp only [render]
    split
    · next numeric =>
      constructor
      · intro same
        obtain rfl := Except.ok.inj same
        exact ⟨rfl, isNumeric_iff.1 numeric⟩
      · rintro ⟨rfl, -⟩
        rfl
    · next refused =>
      constructor
      · intro same
        cases same
      · rintro ⟨rfl, number⟩
        exact absurd (isNumeric_iff.2 number) refused
  refine ⟨passes, fun text rendered => ((passes text).1 rendered).2.of_mem, ?_⟩
  constructor
  · intro number
    refine ⟨⟨_, (passes _).2 ⟨rfl, number.mono fun c _ => Text.isDecimalDigit_of_isDigit⟩⟩, ?_⟩
    intro c inside digit
    rcases number.of_mem c inside with ascii | other
    · exact ascii
    -- No mark of the grammar is a digit of some script, so the digits are the ASCII ones.
    · have marks : ['+', '-', '.', 'e', 'E'].all (fun c => !Text.isDecimalDigit c) = true := by
        decide +kernel
      have mark := List.all_eq_true.1 marks c other
      rw [digit] at mark
      cases mark
  · rintro ⟨⟨text, rendered⟩, ascii⟩
    obtain ⟨rfl, number⟩ := (passes text).1 rendered
    exact number.mono ascii

/-- The two grammars apart: the Arabic three is a number of the one and not of the other. -/
theorem render_foreign_digit :
    render Product.sqlite.dialect .numeric ['٣'] = .ok ['٣'] ∧
      ¬ IsDecimal Char.isDigit (Text.trim ['٣']) := by
  refine ⟨ok_of_toOption (by decide +kernel), fun number => ?_⟩
  rcases number.of_mem '٣' (by decide) with digit | mark
  · cases digit
  · exact absurd mark (by decide)

end Literal
end PagedQuery
