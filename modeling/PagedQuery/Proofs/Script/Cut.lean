/-
# Tokens beside each other

A token is cut off a text if it is the first token of the text and all that follows its
characters is left (`Token.IsCut`).  A text may start with the characters of a token and
yet have another token at its start, because what follows is taken in:

| token | takes in a text that starts with |
| --- | --- |
| `-` | `-` |
| `/` | `*` |
| `$` | a name and `$` |
| a quoted run | the quote of the run |
| a line comment | anything but a line break |

There is no other way: a token that is cut off one text is cut off every text that it
does not take in, unless it was not closed there (`IsCut.of_takesIn`).
-/

import PagedQuery.Script.Token

namespace PagedQuery
namespace Token

variable {escapes : Bool} {t : Token} {rest : List Char}

/-- The tokens of a text are its first one and the tokens of what is left behind it. -/
theorem tokens_cons (escapes : Bool) (c : Char) (cs : List Char) :
    tokens escapes (c :: cs) =
      (next escapes c cs).1 :: tokens escapes (next escapes c cs).2 := by
  rw [tokens]

/-- Whether a token is the first one of its characters and what follows them.  This is said of the
text that follows too, since a token may go on in another text. -/
def IsCut (escapes : Bool) (t : Token) (rest : List Char) : Prop :=
  tokens escapes (t.text ++ rest) = t :: tokens escapes rest

/-- A token is cut off if the first step gives it. -/
theorem isCut_iff_next {c : Char} {cs : List Char} (whole : t.text ++ rest = c :: cs) :
    t.IsCut escapes rest ↔ next escapes c cs = (t, rest) := by
  rw [IsCut, whole, tokens_cons]
  constructor
  · intro h
    have first := (List.cons.inj h).1
    have split := next_append escapes c cs
    rw [first, ← whole] at split
    exact Prod.ext first (List.append_cancel_left split)
  · intro h
    rw [h]

/-- A text that has a token first has the tokens of what follows it then. -/
theorem tokens_append_eq_cons_iff {ts : List Token} :
    tokens escapes (t.text ++ rest) = t :: ts ↔
      t.IsCut escapes rest ∧ tokens escapes rest = ts := by
  constructor
  · intro h
    cases whole : t.text ++ rest with
    | nil => rw [whole, tokens] at h; exact absurd h (by simp)
    | cons c cs =>
      rw [whole, tokens_cons] at h
      have first := (List.cons.inj h).1
      have split := next_append escapes c cs
      rw [first, ← whole] at split
      -- The first token and what follows it make up the text, so what follows is `rest`.
      have left := List.append_cancel_left split
      refine ⟨(isCut_iff_next whole).2 (Prod.ext first left), ?_⟩
      rw [← left]
      exact (List.cons.inj h).2
  · rintro ⟨cut, rfl⟩
    exact cut

/-! ### Quoted runs -/

/-- Whether a character opens a quoted run. -/
def isQuote (c : Char) : Bool :=
  c == '\'' || c == '"' || c == '\x60'

/-- What follows the opening quote of a run up to its closing one.  A quote that is doubled and,
where there are escapes, one behind a backslash do not close the run. -/
inductive ClosedRun (quote : Char) (escapes : Bool) : List Char → Prop
  /-- The closing quote is the last character. -/
  | close : ClosedRun quote escapes [quote]
  /-- An escape takes the next character with it, whichever it is. -/
  | escaped {c : Char} {run : List Char} (h : escapes = true) :
      ClosedRun quote escapes run → ClosedRun quote escapes ('\\' :: c :: run)
  /-- Two quotes are one quote of the run. -/
  | doubled {run : List Char} :
      ClosedRun quote escapes run → ClosedRun quote escapes (quote :: quote :: run)
  /-- Any other character belongs to the run. -/
  | other {c : Char} {run : List Char} (ne : c ≠ quote) (plain : (escapes && c == '\\') = false) :
      ClosedRun quote escapes run → ClosedRun quote escapes (c :: run)

section ClosedRun

variable {quote : Char} {run : List Char}

/-- A run that something follows is closed.  The cases are those of the reader: at the end of the
text nothing follows, and everywhere else the run goes on with one more character, or with two that
stand for one, or is closed here. -/
theorem closedRun_quotedRest {cs : List Char} (more : (quotedRest quote escapes cs).2 ≠ []) :
    ClosedRun quote escapes (quotedRest quote escapes cs).1 := by
  fun_induction quotedRest quote escapes cs with
  | case1 => exact absurd rfl more
  | case2 c h => exact absurd rfl more
  | case3 c h d ds run rest eq ih =>
    rw [eq] at ih
    rw [Bool.and_eq_true, beq_iff_eq] at h
    obtain ⟨known, rfl⟩ := h
    exact .escaped known (ih more)
  | case4 c h closes => exact absurd rfl more
  | case5 c h closes d ds again run rest eq ih =>
    rw [eq] at ih
    obtain rfl := beq_iff_eq.1 closes
    obtain rfl := beq_iff_eq.1 again
    exact .doubled (ih more)
  | case6 c h closes d ds again =>
    obtain rfl := beq_iff_eq.1 closes
    exact .close
  | case7 c ds h closes run rest eq ih =>
    rw [eq] at ih
    exact .other (fun same => closes (beq_iff_eq.2 same)) (Bool.eq_false_iff.2 h) (ih more)

/-- A run behind which a character is left is closed. -/
theorem closedRun_of_quotedRest {cs : List Char} {d : Char} {ds : List Char}
    (h : quotedRest quote escapes cs = (run, d :: ds)) : ClosedRun quote escapes run := by
  have more : (quotedRest quote escapes cs).2 ≠ [] := by rw [h]; exact List.cons_ne_nil d ds
  have closed := closedRun_quotedRest more
  rwa [h] at closed

/-- A character that is neither a quote nor an escape belongs to the run. -/
theorem quotedRest_cons {c : Char} (cs : List Char) (ne : c ≠ quote)
    (plain : (escapes && c == '\\') = false) :
    quotedRest quote escapes (c :: cs) =
      (c :: (quotedRest quote escapes cs).1, (quotedRest quote escapes cs).2) := by
  cases cs <;> simp [quotedRest, plain, ne]

/-- A closed run ends where no other quote follows.  Another quote would be the second half of a
doubled one. -/
theorem ClosedRun.quotedRest_append (backslash : quote ≠ '\\')
    (closed : ClosedRun quote escapes run) (apart : rest.head? ≠ some quote) :
    quotedRest quote escapes (run ++ rest) = (run, rest) := by
  have unescaped : (escapes && quote == '\\') = false := by simp [backslash]
  induction closed with
  | close =>
    cases rest with
    | nil => simp [quotedRest, unescaped]
    | cons d ds =>
      have ne : d ≠ quote := fun same => apart (congrArg some same)
      simp [quotedRest, unescaped, ne]
  | escaped known _ ih =>
    subst known
    simp [quotedRest, ih]
  | doubled _ ih => simp [quotedRest, unescaped, ih]
  | other ne plain _ ih => rw [List.cons_append, quotedRest_cons _ ne plain, ih]

/-- A quote that follows a closed run is taken in. -/
theorem ClosedRun.length_lt_quotedRest (backslash : quote ≠ '\\')
    (closed : ClosedRun quote escapes run) (joined : rest.head? = some quote) :
    run.length < (quotedRest quote escapes (run ++ rest)).1.length := by
  have unescaped : (escapes && quote == '\\') = false := by simp [backslash]
  induction closed with
  | close =>
    obtain ⟨ds, rfl⟩ := List.head?_eq_some_iff.1 joined
    simp [quotedRest, unescaped]
  | escaped known _ ih =>
    subst known
    simpa [quotedRest] using ih
  | doubled _ ih => simpa [quotedRest, unescaped] using ih
  | other ne plain _ ih =>
    rw [List.cons_append, quotedRest_cons _ ne plain]
    exact Nat.succ_lt_succ ih

end ClosedRun

/-! ### Block comments -/

/-- A block comment takes the character behind its opening in, be it a `*` or not. -/
theorem head?_blockRest (c : Char) (cs : List Char) : (blockRest (c :: cs)).1.head? = some c := by
  cases cs with
  | nil => rfl
  | cons d cs =>
    rw [blockRest]
    split <;> rfl

/-- A block comment that something follows is closed. -/
theorem blockRest_append_of_more {cs : List Char} (more : (blockRest cs).2 ≠ [])
    (rest : List Char) : blockRest ((blockRest cs).1 ++ rest) = ((blockRest cs).1, rest) := by
  fun_induction blockRest cs with
  | case1 => exact absurd rfl more
  | case2 c => exact absurd rfl more
  | case3 c d cs closes => simp [blockRest, closes]
  | case4 c d cs open_ run others eq ih =>
    have first := head?_blockRest d cs
    rw [eq] at ih first
    obtain ⟨run', rfl⟩ := List.head?_eq_some_iff.1 first
    have inner := ih more
    rw [List.cons_append] at inner
    simp [blockRest, open_, inner]

/-! ### What follows a token -/

/-- Whether a token takes in what follows it, or part of it.  A character takes in what makes it the
start of a comment or a placeholder, a quoted run another quote, and a line comment everything on
its line. -/
def takesIn : Token → List Char → Bool
  | comment text, rest => text.head? == some '-' && rest.head?.any (· != '\n')
  | placeholder _, _ => false
  | quoted text, rest => rest.head?.any fun c => text.head? == some c
  | plain c, rest =>
    (c == '-' && rest.head? == some '-') || (c == '/' && rest.head? == some '*') ||
      (c == '$' && (placeholder? rest).isSome)

/-- At the end of a text nothing is there to be taken in. -/
theorem takesIn_nil (t : Token) : t.takesIn [] = false := by
  cases t <;> simp [takesIn, placeholder?]

/-- A character is a token of its own unless it opens a quoted run or, with what follows it, another
token. -/
theorem isCut_plain {c : Char} :
    (plain c).IsCut escapes rest ↔ isQuote c = false ∧ (plain c).takesIn rest = false := by
  have whole : (plain c).text ++ rest = c :: rest := rfl
  rw [isCut_iff_next whole, next]
  -- The kinds of token are gone through as `next` tries them; each but the last takes the
  -- character for something else, which is what `takesIn` says.
  by_cases line : (c == '-' && rest.head? == some '-') = true
  · simp [takesIn, line]
  by_cases block : (c == '/' && rest.head? == some '*') = true
  · simp [takesIn, line, block]
  by_cases single : (c == '\'') = true
  · simp [line, block, single, isQuote]
  by_cases double : (c == '"' || c == '\x60') = true
  · simp [line, block, single, double, isQuote]
  have other : isQuote c = false := by
    rw [isQuote, Bool.or_assoc, Bool.or_eq_false_iff]
    exact ⟨Bool.eq_false_iff.2 single, Bool.eq_false_iff.2 double⟩
  by_cases dollar : (c == '$') = true
  · cases found : placeholder? rest with
    | none => simp [line, block, single, double, dollar, found, other, takesIn]
    | some split => simp [line, block, single, double, dollar, found, other, takesIn]
  · simp [line, block, single, double, dollar, other, takesIn]

/-- A placeholder is a name and the `$` behind it. -/
theorem placeholder?_eq_some_iff {cs name : List Char} :
    placeholder? cs = some (name, rest) ↔
      cs = name ++ '$' :: rest ∧ (∀ c ∈ name, isNameRest c = true) ∧
        name.head?.any isNameStart = true := by
  constructor
  · intro h
    refine ⟨(placeholder?_append h).symm, ?_⟩
    unfold placeholder? at h
    split at h
    · next first others after named closed =>
      split at h
      · next starts =>
        obtain ⟨rfl, rfl⟩ := Prod.mk.inj (Option.some.inj h)
        refine ⟨fun c hc => ?_, by simpa using starts⟩
        rw [← named] at hc
        exact List.all_eq_true.1 List.all_takeWhile c hc
      · simp at h
    · simp at h
  · rintro ⟨rfl, inside, starts⟩
    -- The sign that closes the name is no part of a name, so the name is read up to it and no
    -- further.
    have stops : ¬ isNameRest '$' = true := by decide
    rw [placeholder?, List.takeWhile_append_of_pos inside, List.dropWhile_append_of_pos inside,
      List.takeWhile_cons_of_neg stops, List.dropWhile_cons_of_neg stops, List.append_nil]
    cases name with
    | nil => simp at starts
    | cons first others => simpa using starts

/-- A placeholder is cut off whatever follows it, since its own `$` ends it. -/
theorem isCut_placeholder {name : List Char} :
    (placeholder name).IsCut escapes rest ↔
      (∀ c ∈ name, isNameRest c = true) ∧ name.head?.any isNameStart = true := by
  have whole : (placeholder name).text ++ rest = '$' :: (name ++ '$' :: rest) := by simp [text]
  rw [isCut_iff_next whole]
  constructor
  · intro h
    cases found : placeholder? (name ++ '$' :: rest) with
    | none => simp [next, found] at h
    | some split =>
      have same : split = (name, rest) := by simpa [next, found, Prod.ext_iff] using h
      exact (placeholder?_eq_some_iff.1 (found.trans (congrArg some same))).2
  · rintro ⟨inside, starts⟩
    have found := placeholder?_eq_some_iff.2
      ⟨(rfl : name ++ '$' :: rest = name ++ '$' :: rest), inside, starts⟩
    simp [next, found]

/-- A quote opens a run, in which backslashes escape only where the quote is a single one. -/
theorem next_of_isQuote {c : Char} (quote : isQuote c = true) (cs : List Char) :
    next escapes c cs =
      (quoted (c :: (quotedRest c (escapes && c == '\'') cs).1),
        (quotedRest c (escapes && c == '\'') cs).2) := by
  simp only [isQuote, Bool.or_eq_true, beq_iff_eq] at quote
  rcases quote with (rfl | rfl) | rfl <;> simp [next]

/-- Nothing but a quote opens a run. -/
theorem isQuote_of_next_eq {c : Char} {cs text : List Char}
    (h : next escapes c cs = (quoted text, rest)) : isQuote c = true := by
  unfold next at h
  split at h
  · simp at h
  split at h
  · simp at h
  split at h
  · next single => simp [isQuote, beq_iff_eq.1 single]
  split at h
  · next double => rw [isQuote, Bool.or_assoc, double, Bool.or_true]
  split at h
  · split at h <;> simp at h
  · simp at h

/-- A quoted run is cut off where it ends, so what follows it decides with its last quote. -/
theorem isCut_quoted {quote : Char} {run : List Char} :
    (quoted (quote :: run)).IsCut escapes rest ↔ isQuote quote = true ∧
      quotedRest quote (escapes && quote == '\'') (run ++ rest) = (run, rest) := by
  have whole : (quoted (quote :: run)).text ++ rest = quote :: (run ++ rest) := rfl
  rw [isCut_iff_next whole]
  constructor
  · intro h
    have opens := isQuote_of_next_eq h
    rw [next_of_isQuote opens] at h
    exact ⟨opens, by simpa [Prod.ext_iff] using h⟩
  · rintro ⟨opens, inside⟩
    rw [next_of_isQuote opens, inside]

/-- A comment ends with its line, or where it is closed. -/
theorem next_eq_comment_iff {c : Char} {cs text : List Char} :
    next escapes c cs = (comment text, rest) ↔
      (c = '-' ∧ cs.head? = some '-' ∧ text = '-' :: cs.takeWhile (· != '\n') ∧
        rest = cs.dropWhile (· != '\n')) ∨
      (c = '/' ∧ cs.head? = some '*' ∧ text = '/' :: '*' :: (blockRest cs.tail).1 ∧
        rest = (blockRest cs.tail).2) := by
  constructor
  · intro h
    unfold next at h
    -- Only the first two kinds of token are comments.
    split at h
    · next line =>
      rw [Bool.and_eq_true, beq_iff_eq, beq_iff_eq] at line
      obtain ⟨rfl, second⟩ := line
      have parts := Prod.mk.inj h
      exact .inl ⟨rfl, second, (comment.inj parts.1).symm, parts.2.symm⟩
    split at h
    · next block =>
      rw [Bool.and_eq_true, beq_iff_eq, beq_iff_eq] at block
      obtain ⟨rfl, second⟩ := block
      have parts := Prod.mk.inj h
      exact .inr ⟨rfl, second, (comment.inj parts.1).symm, parts.2.symm⟩
    split at h
    · simp at h
    split at h
    · simp at h
    split at h
    · split at h <;> simp at h
    · simp at h
  · rintro (⟨rfl, second, rfl, rfl⟩ | ⟨rfl, second, rfl, rfl⟩)
    · simp [next, second]
    · simp [next, second]

/-- No quote is an escape, so a character of a run is at most one of the two. -/
theorem ne_backslash_of_isQuote {c : Char} (h : isQuote c = true) : c ≠ '\\' := by
  rintro rfl
  exact absurd h (by decide)

/-- A token that is cut off has characters, and the first step gives it. -/
theorem IsCut.exists_next (h : t.IsCut escapes rest) :
    ∃ c cs, t.text = c :: cs ∧ next escapes c (cs ++ rest) = (t, rest) := by
  cases whole : t.text ++ rest with
  | nil =>
    rw [IsCut, whole, tokens] at h
    exact absurd h (by simp)
  | cons c cs =>
    have first := (isCut_iff_next whole).1 h
    cases characters : t.text with
    | nil =>
      have ne := text_next_ne_nil escapes c cs
      rw [first] at ne
      exact absurd characters ne
    | cons d ds =>
      rw [characters] at whole
      obtain ⟨rfl, rfl⟩ := List.cons.inj whole
      exact ⟨d, ds, rfl, first⟩

/-- A run is split off a text in front of the first character outside it. -/
theorem span_append_eq_iff {p : Char → Bool} {run : List Char} :
    (run = (run ++ rest).takeWhile p ∧ rest = (run ++ rest).dropWhile p) ↔
      (∀ c ∈ run, p c = true) ∧ rest.head?.any p = false := by
  constructor
  · rintro ⟨first, left⟩
    refine ⟨fun c hc => ?_, ?_⟩
    · rw [first] at hc
      exact List.all_eq_true.1 List.all_takeWhile c hc
    -- What is left after a run starts with a character outside it, if with any.
    · have stops := List.head?_dropWhile_not p (run ++ rest)
      rw [← left] at stops
      cases rest with
      | nil => rfl
      | cons d ds => simpa using stops
  · rintro ⟨inside, stops⟩
    rw [List.takeWhile_append_of_pos inside, List.dropWhile_append_of_pos inside]
    cases rest with
    | nil => simp
    | cons d ds =>
      have outside : ¬ p d = true := by simpa using stops
      rw [List.takeWhile_cons_of_neg outside, List.dropWhile_cons_of_neg outside,
        List.append_nil]
      exact ⟨rfl, rfl⟩

/-- A comment is cut off at the end of its line or, if it is a block, where it is closed.  A line
comment is the one token whose end is marked by what follows it alone. -/
theorem isCut_comment {text : List Char} :
    (comment text).IsCut escapes rest ↔
      (∃ run, text = '-' :: '-' :: run ∧ (∀ c ∈ run, (c != '\n') = true) ∧
        (comment text).takesIn rest = false) ∨
      ∃ run, text = '/' :: '*' :: run ∧ blockRest (run ++ rest) = (run, rest) := by
  constructor
  · intro h
    obtain ⟨c, cs, rfl, first⟩ := h.exists_next
    rcases next_eq_comment_iff.1 first with ⟨rfl, second, run, left⟩ | ⟨rfl, -, run, left⟩
    -- The second hyphen is part of the run that the line is read as, so it is taken off it here
    -- and put back below.
    · obtain ⟨inside, stops⟩ := span_append_eq_iff.1 ⟨(List.cons.inj run).2, left⟩
      cases cs with
      | nil =>
        rw [List.nil_append] at second
        rw [second] at stops
        exact absurd stops (by decide)
      | cons d ds =>
        obtain rfl : d = '-' := Option.some.inj second
        exact .inl ⟨ds, rfl, fun c hc => inside c (List.mem_cons_of_mem _ hc), stops⟩
    · obtain ⟨ds, rfl⟩ : ∃ ds, cs = '*' :: ds := ⟨_, (List.cons.inj run).2⟩
      have inner := (List.cons.inj (List.cons.inj run).2).2
      exact .inr ⟨ds, rfl, Prod.ext inner.symm left.symm⟩
  · rintro (⟨run, rfl, inside, apart⟩ | ⟨run, rfl, closed⟩)
    · have whole : (comment ('-' :: '-' :: run)).text ++ rest = '-' :: ('-' :: run ++ rest) := rfl
      have both : ∀ c ∈ '-' :: run, (c != '\n') = true :=
        List.forall_mem_cons.2 ⟨by decide, inside⟩
      obtain ⟨first, left⟩ := span_append_eq_iff.2 ⟨both, apart⟩
      rw [isCut_iff_next whole, next_eq_comment_iff]
      exact .inl ⟨rfl, rfl, congrArg _ first, left⟩
    · have whole : (comment ('/' :: '*' :: run)).text ++ rest = '/' :: ('*' :: run ++ rest) := rfl
      rw [isCut_iff_next whole, next_eq_comment_iff]
      refine .inr ⟨rfl, rfl, ?_, ?_⟩ <;> rw [List.cons_append, List.tail_cons, closed]

/-- A token is not cut off where it takes in what follows. -/
theorem IsCut.takesIn_eq_false (h : t.IsCut escapes rest) : t.takesIn rest = false := by
  cases rest with
  | nil => exact takesIn_nil t
  | cons d ds =>
    cases t with
    | plain c => exact (isCut_plain.1 h).2
    | placeholder name => rfl
    | quoted text =>
      obtain ⟨quote, run, rfl, -⟩ := h.exists_next
      obtain ⟨opens, inside⟩ := isCut_quoted.1 h
      have closed := closedRun_of_quotedRest inside
      -- Were the next character the quote, the run would have gone on with it.
      have ne : d ≠ quote := fun same => by
        have longer : run.length <
            (quotedRest quote (escapes && quote == '\'') (run ++ d :: ds)).1.length :=
          closed.length_lt_quotedRest (ne_backslash_of_isQuote opens) (congrArg some same)
        rw [inside] at longer
        exact absurd longer (Nat.lt_irrefl _)
      simp [takesIn, ne.symm]
    | comment text =>
      rcases isCut_comment.1 h with ⟨-, -, -, apart⟩ | ⟨run, rfl, -⟩
      · exact apart
      · simp [takesIn]

/-- A token that is cut off a text with something left is closed, so it is cut off every text that
it does not take in.  This is what the theorems about other texts rest on: whether a token stays
itself is a question about what follows it and never about itself. -/
theorem IsCut.of_takesIn {c : Char} {cs : List Char} (h : t.IsCut escapes (c :: cs))
    (apart : t.takesIn rest = false) : t.IsCut escapes rest := by
  cases t with
  | plain d => exact isCut_plain.2 ⟨(isCut_plain.1 h).1, apart⟩
  | placeholder name => exact isCut_placeholder.2 (isCut_placeholder.1 h)
  | quoted text =>
    obtain ⟨quote, run, rfl, -⟩ := h.exists_next
    obtain ⟨opens, inside⟩ := isCut_quoted.1 h
    -- Something followed the run, so it is closed, and a closed run ends in front of whatever
    -- does not double its quote.
    have closed := closedRun_of_quotedRest inside
    refine isCut_quoted.2 ⟨opens, ?_⟩
    refine closed.quotedRest_append (ne_backslash_of_isQuote opens) fun joined => ?_
    simp [takesIn, joined] at apart
  | comment text =>
    rcases isCut_comment.1 h with ⟨run, rfl, inside, -⟩ | ⟨run, rfl, closed⟩
    · exact isCut_comment.2 (.inl ⟨run, rfl, inside, apart⟩)
    -- A block comment that something followed is closed as well, and then nothing that follows
    -- matters.
    · have more : (blockRest (run ++ c :: cs)).2 ≠ [] := by
        rw [closed]
        exact List.cons_ne_nil c cs
      have again := blockRest_append_of_more more rest
      rw [closed] at again
      exact isCut_comment.2 (.inr ⟨run, rfl, again⟩)

/-- At the end of a text a token that is cut off somewhere is cut off too. -/
theorem IsCut.nil (h : t.IsCut escapes rest) : t.IsCut escapes [] := by
  cases rest with
  | nil => exact h
  | cons c cs => exact h.of_takesIn (takesIn_nil t)

/-! ### Lists of tokens -/

/-- The tokens of a list are cut off one after another.  It is the step of every induction on the
tokens of a text. -/
theorem tokens_flatMap_cons {ts : List Token}
    (h : tokens escapes ((t :: ts).flatMap text) = t :: ts) :
    t.IsCut escapes (ts.flatMap text) ∧ tokens escapes (ts.flatMap text) = ts :=
  tokens_append_eq_cons_iff.1 h

end Token
end PagedQuery
