/-
# The tokens of a value

The text of a value that is no fragment is made of quoted runs that are closed and of single
characters that are neither quotes nor `$` (`Token.IsLiteral`), and it starts with no blank
(`ScriptVariable.isValue_render`).  Where the text stands in a script, its tokens are those it has
on its own, unless the last one takes in what follows (`tokens_flatMap_append_iff`).

The kinds of values differ in what they need.  A string, a timestamp and an identifier are one
quoted run, closed because its quotes are doubled or because it holds none.  A number, a truth
value and `NULL` are characters that are tokens whatever follows them, except for the signs of a
number: a `-` must not stand before another one, which the grammar of numbers rules out.
-/

import PagedQuery.Literal
import PagedQuery.Proofs.Literal.Numeral
import PagedQuery.Proofs.Script.Cut
import PagedQuery.Proofs.Timestamp.Reread

namespace PagedQuery
namespace Token

variable {escapes : Bool} {t : Token} {rest : List Char}

/-- The tokens that values are made of: single characters other than `$`, and quoted runs that are
closed.  There are no comments among them and no placeholders. -/
inductive IsLiteral (escapes : Bool) : Token → Prop
  /-- A character that opens neither a run nor a placeholder. -/
  | plain {c : Char} (apart : isQuote c = false) (dollar : c ≠ '$') : IsLiteral escapes (.plain c)
  /-- A run with its closing quote. -/
  | quoted {quote : Char} {run : List Char} (opens : isQuote quote = true)
      (closed : ClosedRun quote (escapes && quote == '\'') run) :
      IsLiteral escapes (.quoted (quote :: run))

/-- A token of a value is cut off exactly where it does not take in what follows.  It is closed by
itself, wherever it came from. -/
theorem IsLiteral.isCut_iff (h : t.IsLiteral escapes) :
    t.IsCut escapes rest ↔ t.takesIn rest = false := by
  refine ⟨IsCut.takesIn_eq_false, fun apart => ?_⟩
  cases h with
  | plain other => exact isCut_plain.2 ⟨other, apart⟩
  | quoted opens closed =>
    refine isCut_quoted.2 ⟨opens, ?_⟩
    refine closed.quotedRest_append (ne_backslash_of_isQuote opens) fun joined => ?_
    simp [takesIn, joined] at apart

/-- What a token takes in is known from the next character, unless the token is `$`. -/
theorem takesIn_congr (dollar : t ≠ .plain '$') {rest' : List Char}
    (same : rest.head? = rest'.head?) : t.takesIn rest = t.takesIn rest' := by
  cases t with
  | plain c =>
    have ne : (c == '$') = false := beq_false_of_ne fun h => dollar (congrArg _ h)
    simp only [takesIn, same, ne, Bool.false_and]
  | placeholder name => rfl
  | quoted text => rw [takesIn, takesIn, same]
  | comment text => rw [takesIn, takesIn, same]

/-- No token of a value can become part of a placeholder. -/
theorem IsLiteral.ne_dollar (h : t.IsLiteral escapes) : t ≠ .plain '$' := by
  rintro rfl
  cases h with
  | plain _ dollar => exact dollar rfl

/-- The tokens of a value stay what they are on their own where the last one does not take
in what follows. -/
theorem tokens_flatMap_append_iff {ts others : List Token}
    (literal : ∀ t ∈ ts, t.IsLiteral escapes) (own : tokens escapes (ts.flatMap text) = ts) :
    tokens escapes (ts.flatMap text ++ rest) = ts ++ others ↔
      (∀ t ∈ ts.getLast?, t.takesIn rest = false) ∧ tokens escapes rest = others := by
  induction ts with
  | nil => simp
  -- Only the last token sees what follows; every other one sees the token behind it, as it did
  -- before.
  | cons t ts ih =>
    obtain ⟨cut, own'⟩ := tokens_flatMap_cons own
    have isLiteral := literal t (List.mem_cons_self ..)
    rw [List.flatMap_cons, List.append_assoc, List.cons_append, tokens_append_eq_cons_iff]
    cases ts with
    | nil => simp [isLiteral.isCut_iff]
    | cons u us =>
      obtain ⟨c, cs, characters, -⟩ := (tokens_flatMap_cons own').1.exists_next
      -- What a literal token takes in is seen from one character, and that one is not a new one.
      have same : ((u :: us).flatMap text ++ rest).head? = ((u :: us).flatMap text).head? := by
        simp [characters]
      have apart : t.takesIn ((u :: us).flatMap text ++ rest) = false := by
        rw [takesIn_congr isLiteral.ne_dollar same]
        exact cut.takesIn_eq_false
      rw [ih (fun v hv => literal v (List.mem_cons_of_mem _ hv)) own', List.getLast?_cons_cons]
      exact ⟨fun h => h.2, fun h => ⟨isLiteral.isCut_iff.2 apart, h⟩⟩

/-! ### Texts of literal tokens -/

/-- Whether the tokens of a text are those that values are made of. -/
def IsLiteralText (escapes : Bool) (cs : List Char) : Prop :=
  ∀ t ∈ tokens escapes cs, t.IsLiteral escapes

/-- Whether a character is a token whatever follows it.  Most are; quotes, `$`, and what may start a
comment are not. -/
def isSimple (c : Char) : Bool :=
  !isQuote c && c != '$' && c != '-' && c != '/'

/-- A character of a class without marks is a token whatever follows it. -/
theorem isSimple_of_class {p : Char → Bool} {c : Char} (h : p c = true)
    (marks : ['\'', '"', '\x60', '$', '-', '/'].all (fun m => !p m) = true) :
    isSimple c = true := by
  have apart : ∀ m ∈ ['\'', '"', '\x60', '$', '-', '/'], c ≠ m := by
    rintro m hm rfl
    have outside := List.all_eq_true.1 marks c hm
    rw [h] at outside
    exact absurd outside (by decide)
  simp only [List.forall_mem_cons] at apart
  obtain ⟨single, double, back, dollar, minus, slash, -⟩ := apart
  simp [isSimple, isQuote, single, double, back, dollar, minus, slash]

namespace IsLiteralText

/-- The empty text has no tokens at all. -/
theorem nil : IsLiteralText escapes [] := by
  rw [IsLiteralText, tokens]
  exact fun t ht => absurd ht List.not_mem_nil

/-- A character goes in front if it does not take in the text. -/
theorem cons {c : Char} {cs : List Char} (h : IsLiteralText escapes cs) (apart : isQuote c = false)
    (dollar : c ≠ '$') (free : (plain c).takesIn cs = false) : IsLiteralText escapes (c :: cs) := by
  have cut : tokens escapes (c :: cs) = plain c :: tokens escapes cs :=
    isCut_plain.2 ⟨apart, free⟩
  rw [IsLiteralText, cut]
  exact List.forall_mem_cons.2 ⟨.plain apart dollar, h⟩

/-- Characters that are tokens whatever follows them go in front. -/
theorem append {run cs : List Char} (simple : run.all isSimple = true)
    (h : IsLiteralText escapes cs) : IsLiteralText escapes (run ++ cs) := by
  induction run with
  | nil => exact h
  | cons c run ih =>
    rw [List.all_cons, Bool.and_eq_true] at simple
    obtain ⟨first, others⟩ := simple
    simp only [isSimple, Bool.and_eq_true, Bool.not_eq_true', bne_iff_ne, ne_eq] at first
    obtain ⟨⟨⟨apart, dollar⟩, minus⟩, slash⟩ := first
    refine (ih others).cons apart dollar ?_
    simp [takesIn, dollar, minus, slash]

/-- A text of characters that are tokens whatever follows is made of them. -/
theorem of_simple {cs : List Char} (simple : cs.all isSimple = true) :
    IsLiteralText escapes cs := by
  have whole := append simple (nil : IsLiteralText escapes [])
  rwa [List.append_nil] at whole

/-- A sign goes in front of a text without one. -/
theorem of_sign {sign cs : List Char} (signed : Literal.IsSign sign)
    (h : IsLiteralText escapes cs) (unsigned : cs.head? ≠ some '-') :
    IsLiteralText escapes (sign ++ cs) := by
  cases signed with
  | none => exact h
  | plus => exact h.cons (by decide) (by decide) (by simp [takesIn])
  | minus => exact h.cons (by decide) (by decide) (by simpa [takesIn] using unsigned)

/-- A literal token on its own. -/
theorem of_isLiteral {t : Token} (literal : t.IsLiteral escapes) : IsLiteralText escapes t.text := by
  have cut : t.IsCut escapes [] := literal.isCut_iff.2 (takesIn_nil t)
  rw [IsCut, tokens, List.append_nil] at cut
  rw [IsLiteralText, cut]
  exact List.forall_mem_singleton.2 literal

/-- Texts go together if a comma stands between them. -/
theorem append_separated {cs others : List Char} (h : IsLiteralText escapes cs)
    (h' : IsLiteralText escapes others) :
    IsLiteralText escapes (cs ++ (", ".toList ++ others)) := by
  have rest : IsLiteralText escapes (", ".toList ++ others) := append (by decide) h'
  -- No literal token takes in a comma.
  have apart : ∀ t ∈ (tokens escapes cs).getLast?, t.takesIn (", ".toList ++ others) = false := by
    intro t ht
    cases h t (List.mem_of_getLast? ht) with
    | plain _ dollar => simp [takesIn, dollar]
    | @quoted quote run opens _ =>
      have ne : quote ≠ ',' := by
        rintro rfl
        exact absurd opens (by decide)
      simp [takesIn, ne]
  have parts := (tokens_flatMap_append_iff h (by rw [flatMap_text_tokens])).2 ⟨apart, rfl⟩
  rw [flatMap_text_tokens] at parts
  rw [IsLiteralText, parts]
  intro t ht
  exact (List.mem_append.1 ht).elim (h t) (rest t)

end IsLiteralText

/-! ### Quoted values -/

section Quoted

variable {quote : Char} {cs : List Char}

/-- A text without quotes and backslashes is closed by the next quote. -/
theorem closedRun_of_apart (apart : ∀ c ∈ cs, c ≠ quote ∧ c ≠ '\\') :
    ClosedRun quote escapes (cs ++ [quote]) := by
  induction cs with
  | nil => exact .close
  | cons c cs ih =>
    obtain ⟨ne, plain⟩ := apart c (List.mem_cons_self ..)
    exact .other ne (by simp [plain]) (ih fun d hd => apart d (List.mem_cons_of_mem _ hd))

/-- A text in which quotes, and escapes if there are any, are doubled is closed by the next
quote. -/
theorem closedRun_doubling {isDoubled : Char → Bool}
    (doubled : ∀ c, isDoubled c = true ↔ c = quote ∨ escapes = true ∧ c = '\\') (cs : List Char) :
    ClosedRun quote escapes (Dialect.doubling isDoubled cs ++ [quote]) := by
  induction cs with
  | nil => exact .close
  | cons c cs ih =>
    rw [Dialect.doubling, List.flatMap_cons, List.append_assoc]
    cases twice : isDoubled c with
    | true =>
      rcases (doubled c).1 twice with rfl | ⟨known, rfl⟩
      · exact .doubled ih
      · exact .escaped known ih
    | false =>
      have single : ¬ (c = quote ∨ escapes = true ∧ c = '\\') := fun h => by
        rw [(doubled c).2 h] at twice
        exact absurd twice (by decide)
      exact .other (fun same => single (.inl same)) (by simpa using fun h => single (.inr h)) ih

end Quoted

end Token

section Value

variable {d : Dialect} {value text : List Char}

/-- A string is one closed run, in every dialect. -/
theorem Dialect.isLiteral_quoteString (d : Dialect) (value : List Char) :
    (Token.quoted (d.quoteString value)).IsLiteral d.backslashEscapes := by
  refine .quoted (by decide) (Token.closedRun_doubling (fun c => ?_) value)
  simp [Dialect.doublesInString]

/-- An identifier between two of the quotes that tokens know is one token. -/
theorem Dialect.isLiteral_quoteIdentifier
    (quotes : d.quoteEnd = d.quoteStart ∧ (d.quoteStart = '"' ∨ d.quoteStart = '\x60'))
    (value : List Char) : (Token.quoted (d.quoteIdentifier value)).IsLiteral d.backslashEscapes := by
  obtain ⟨same, double⟩ := quotes
  have other : (d.quoteStart == '\'') = false := by rcases double with h | h <;> rw [h] <;> decide
  rw [Dialect.quoteIdentifier, same]
  refine .quoted ?_ (Token.closedRun_doubling (fun c => ?_) _)
  · rcases double with h | h <;> rw [h] <;> decide
  · simp [other]

/-- A timestamp is a closed run, in some dialects behind a keyword.  Its text has no quote, so it
needs no doubling. -/
theorem Literal.isLiteralText_timestamp (d : Dialect) (t : Timestamp) :
    Token.IsLiteralText d.backslashEscapes (Literal.timestamp d t) := by
  have literal : (Token.quoted ('\'' :: (t.text ++ ['\'']))).IsLiteral d.backslashEscapes :=
    .quoted (by decide) (Token.closedRun_of_apart t.apart_of_mem_text)
  have quoted : Token.IsLiteralText d.backslashEscapes ('\'' :: (t.text ++ ['\''])) :=
    .of_isLiteral literal
  unfold Literal.timestamp
  split
  · show Token.IsLiteralText _ ("TIMESTAMP ".toList ++ ('\'' :: (t.text ++ ['\''])))
    exact .append (by decide) quoted
  · exact quoted

/-! ### Numbers -/

/-- A digit of any script is a token whatever follows it. -/
theorem Text.isSimple_of_isDecimalDigit {c : Char} (h : isDecimalDigit c = true) :
    Token.isSimple c = true :=
  Token.isSimple_of_class h (by decide)

/-- A mantissa holds no sign. -/
theorem Literal.IsMantissa.isSimple {cs : List Char} (h : IsMantissa Text.isDecimalDigit cs) :
    cs.all Token.isSimple = true := by
  rw [List.all_eq_true]
  intro c inside
  rcases h.of_mem c inside with digit | rfl
  · exact Text.isSimple_of_isDecimalDigit digit
  · decide

/-- The sign of an exponent has digits behind it, so it takes in nothing. -/
theorem Literal.IsExponent.isLiteralText {escapes : Bool} {cs : List Char}
    (h : IsExponent Text.isDecimalDigit cs) : Token.IsLiteralText escapes cs := by
  cases h with
  | none => exact .nil
  | @written e sign ds letter signed nonempty digits =>
    have simple : ∀ c ∈ ds, Token.isSimple c = true :=
      fun c inside => Text.isSimple_of_isDecimalDigit (digits c inside)
    have exponent : Token.IsLiteralText escapes (sign ++ ds) := by
      refine .of_sign signed (.of_simple (List.all_eq_true.2 simple)) fun minus => ?_
      exact absurd (simple '-' (List.mem_of_head? minus)) (by decide)
    have first : [e].all Token.isSimple = true := by
      rcases letter with rfl | rfl <;> decide
    exact Token.IsLiteralText.append first exponent

/-- A number is made of single characters.  A sign in front of it takes in nothing, since a mantissa
does not start with one. -/
theorem Literal.isLiteralText_of_isNumeric {escapes : Bool} {cs : List Char}
    (h : isNumeric cs = true) : Token.IsLiteralText escapes cs := by
  obtain ⟨signed, number, power⟩ := isNumeric_iff.1 h
  refine .of_sign signed (.append number.isSimple power.isLiteralText) fun minus => ?_
  obtain ⟨c, mantissa, rfl⟩ := List.exists_cons_of_ne_nil number.ne_nil
  obtain rfl : c = '-' := Option.some.inj minus
  exact absurd (List.all_eq_true.1 number.isSimple '-' (List.mem_cons_self ..)) (by decide)

/-! ### Variables -/

/-- Whether a text is that of a value: it is made of literal tokens and starts with no
blank. -/
structure Token.IsValue (escapes : Bool) (value : List Char) : Prop where
  /-- All its tokens are closed or single characters. -/
  literal : IsLiteralText escapes value
  /-- It is not empty, and its start is not taken for a blank of the script. -/
  first : ∃ c cs, value = c :: cs ∧ Text.isBlank c = false

/-- A text without the blanks around it starts with none. -/
theorem Text.isBlank_eq_false_of_trim {cs rest : List Char} {c : Char} (h : trim cs = c :: rest) :
    isBlank c = false := by
  obtain ⟨blanks, whole⟩ : trim cs <+: trimStart cs := by
    rw [trim, trimEnd, ← List.reverse_suffix, List.reverse_reverse]
    exact List.dropWhile_suffix _
  rw [h] at whole
  have head := List.head?_dropWhile_not isBlank cs
  rw [← trimStart, ← whole] at head
  simpa using head

/-- The text of every value that is no fragment is that of a value.  Only an identifier is
written with quotes of the dialect's own, and so only an identifier needs them to be such that
start a quoted run. -/
theorem Literal.isValue_render {valueType : ValueType}
    (quotes : valueType = .identifier →
      d.quoteEnd = d.quoteStart ∧ (d.quoteStart = '"' ∨ d.quoteStart = '\x60'))
    (typed : valueType ≠ .fragment)
    (h : render d valueType value = .ok text) : Token.IsValue d.backslashEscapes text := by
  cases valueType with
  | string =>
    obtain rfl := Except.ok.inj h
    exact ⟨.of_isLiteral (d.isLiteral_quoteString value), _, _, rfl, by decide⟩
  | numeric =>
    simp only [render] at h
    split at h
    · next numeric =>
      obtain rfl := Except.ok.inj h
      refine ⟨isLiteralText_of_isNumeric numeric, ?_⟩
      -- A number starts with no blank, since it was trimmed.
      cases trimmed : Text.trim value with
      | nil => rw [trimmed] at numeric; exact absurd numeric (by decide)
      | cons c cs => exact ⟨c, cs, rfl, Text.isBlank_eq_false_of_trim trimmed⟩
    · simp at h
  | boolean =>
    obtain rfl := Except.ok.inj h
    split
    · exact ⟨.of_simple (by decide), _, _, rfl, by decide⟩
    · exact ⟨.of_simple (by decide), _, _, rfl, by decide⟩
  | date =>
    simp only [render] at h
    split at h
    · next t read =>
      obtain rfl := Except.ok.inj h
      refine ⟨isLiteralText_timestamp d t, ?_⟩
      unfold timestamp
      split
      · exact ⟨_, _, rfl, by decide⟩
      · exact ⟨_, _, rfl, by decide⟩
    · simp at h
  | fragment => exact absurd rfl typed
  | identifier =>
    obtain rfl := Except.ok.inj h
    have known := quotes rfl
    refine ⟨.of_isLiteral (d.isLiteral_quoteIdentifier known value), _, _, rfl, ?_⟩
    rcases known.2 with double | back
    · rw [double]; decide
    · rw [back]; decide
  | keyword => simp [render] at h
  | snippet => simp [render] at h

/-- Values separated by commas are a value. -/
theorem Token.isValue_joinWith {escapes : Bool} {texts : List (List Char)} (some : texts ≠ [])
    (each : ∀ text ∈ texts, IsValue escapes text) :
    IsValue escapes (Text.joinWith ", " texts) := by
  induction texts with
  | nil => exact absurd rfl some
  | cons text texts ih =>
    obtain ⟨literal, c, cs, rfl, blank⟩ := each text (List.mem_cons_self ..)
    cases texts with
    | nil =>
      have whole : Text.joinWith ", " [c :: cs] = c :: cs := by
        simp [Text.joinWith, List.intercalate]
      rw [whole]
      exact ⟨literal, c, cs, rfl, blank⟩
    | cons other others =>
      have rest := ih (List.cons_ne_nil other others) fun text h =>
        each text (List.mem_cons_of_mem _ h)
      have whole : Text.joinWith ", " ((c :: cs) :: other :: others) =
          (c :: cs) ++ (", ".toList ++ Text.joinWith ", " (other :: others)) := by
        simp [Text.joinWith, List.intercalate]
      rw [whole]
      exact ⟨literal.append_separated rest.literal, c, _, rfl, blank⟩

/-- **The text of a variable** that is no fragment is that of a value.  Its literals are joined with
commas, which no token takes in, and a variable without values is the word `NULL`. -/
theorem ScriptVariable.isValue_render {v : ScriptVariable}
    (quotes : v.valueType = .identifier →
      d.quoteEnd = d.quoteStart ∧ (d.quoteStart = '"' ∨ d.quoteStart = '\x60'))
    (typed : v.valueType ≠ .fragment) (h : v.render d = .ok text) :
    Token.IsValue d.backslashEscapes text := by
  simp only [ScriptVariable.render] at h
  -- Keywords and snippets are refused, a variable without values is `NULL`, and all others are
  -- their literals with commas in between.
  split at h
  · simp at h
  split at h
  · obtain rfl := Except.ok.inj h
    exact ⟨.of_simple (by decide), _, _, rfl, by decide⟩
  · next values =>
    split at h
    · next texts rendered =>
      obtain rfl := Except.ok.inj h
      have each := mapM_eq_ok_iff.1 rendered
      refine Token.isValue_joinWith ?_ fun text htext => ?_
      · rintro rfl
        rw [List.map_nil, List.map_eq_nil_iff] at each
        exact values (by rw [each]; rfl)
      · have mem : (.ok text : Except Failure (List Char)) ∈ texts.map .ok :=
          List.mem_map_of_mem htext
        rw [← each] at mem
        obtain ⟨value, -, rendered⟩ := List.mem_map.1 mem
        exact Literal.isValue_render quotes typed rendered
    · simp at h

end Value

end PagedQuery
