/-
# Scripts that are wrapped

A script without placeholders is not changed but cut: the blanks in front of it and the filler
behind it are left out, so that it can stand in parentheses.  Filler is what says nothing at the
end of a script: comments, blanks and semicolons.  A script that is filler alone is refused; any
other one is rendered as the part between, which ends with no filler.

The part has the tokens that it has in the script, also where a `)` follows it, because no token
but a quoted run that is not closed takes in a `)` (`tokens_append_paren`).  So what is wrapped
around a script is never inside one of its comments or quoted runs (`render_scriptOnly_cut`).  The
one exception is exact: behind an open quoted run the `)` is part of the run, and there the
statement is an equivalence.
-/

import Mathlib.Data.List.Basic
import Mathlib.Data.List.DropRight
import PagedQuery.Proofs.Script.Seam

namespace PagedQuery

/-- The cut at the end, in the terms of the library. -/
theorem upToLast_eq_rdropWhile {α : Type} (isKept : α → Bool) (xs : List α) :
    upToLast isKept xs = xs.rdropWhile fun x => !isKept x :=
  rfl

namespace Token

variable {escapes : Bool} {t : Token} {ts : List Token} {rest : List Char}

/-- Whether a token is a comment, a blank or a semicolon. -/
def IsFiller (t : Token) : Prop :=
  (∃ text, t = comment text) ∨ t = plain ';' ∨ ∃ c, t = plain c ∧ Text.isBlank c = true

/-- What the loop over a script passes over as insignificant is filler. -/
theorem isSignificant_eq_false_iff : t.isSignificant = false ↔ t.IsFiller := by
  cases t with
  | plain c => by_cases semicolon : c = ';' <;> simp [isSignificant, IsFiller, semicolon]
  | _ => simp [isSignificant, IsFiller]

/-- Whether a quoted run has its closing quote.  Only the last token of a script can lack it. -/
def IsClosedQuote (escapes : Bool) (text : List Char) : Prop :=
  ∃ quote run, text = quote :: run ∧ ClosedRun quote (escapes && quote == '\'') run

/-- A `$` takes in what makes it a placeholder. -/
theorem takesIn_dollar (cs : List Char) :
    (plain '$').takesIn cs = (placeholder? cs).isSome := by
  simp [takesIn]

/-- What a token takes in of a text it takes in of a longer one. -/
theorem takesIn_eq_false_of_append {more : List Char} (nonempty : rest ≠ [])
    (free : t.takesIn (rest ++ more) = false) : t.takesIn rest = false := by
  obtain ⟨c, others, rfl⟩ := List.exists_cons_of_ne_nil nonempty
  by_cases dollar : t = plain '$'
  · subst dollar
    rw [takesIn_dollar, ← Bool.not_eq_true, isSome_placeholder?] at free ⊢
    rintro ⟨starts, ends⟩
    obtain ⟨ds, left⟩ := List.head?_eq_some_iff.1 ends
    refine free ⟨starts, ?_⟩
    rw [List.dropWhile_append, left]
    rfl
  · have same : (c :: others).head? = (c :: others ++ more).head? := rfl
    exact (takesIn_congr dollar same).trans free

/-- A `)` behind a text is taken in by no token that the text is not taken in by.  Only the last
token has the `)` for its neighbour, but `$` looks further than one character. -/
theorem takesIn_append_paren (nonempty : rest ≠ []) (free : t.takesIn rest = false)
    (cs : List Char) : t.takesIn (rest ++ ')' :: cs) = false := by
  obtain ⟨c, others, rfl⟩ := List.exists_cons_of_ne_nil nonempty
  by_cases dollar : t = plain '$'
  · subst dollar
    rw [takesIn_dollar, ← Bool.not_eq_true, isSome_placeholder?] at free ⊢
    rintro ⟨starts, ends⟩
    refine free ⟨starts, ?_⟩
    rw [List.dropWhile_append] at ends
    cases left : (c :: others).dropWhile isNameRest with
    | nil =>
      -- the name goes on to the `)`, which is no `$`
      rw [left, List.isEmpty_nil, if_pos rfl, List.dropWhile_cons_of_neg (by decide)] at ends
      exact absurd (Option.some.inj ends) (by decide)
    | cons d ds =>
      rw [left] at ends
      exact ends
  · have same : (c :: others ++ ')' :: cs).head? = (c :: others).head? := rfl
    exact (takesIn_congr dollar same).trans free

/-- A `)` is no part of the token before it, unless that is filler or a quoted run that is
not closed. -/
theorem IsCut.append_paren (cut : t.IsCut escapes []) (significant : t.isSignificant = true)
    (closed : ∀ text, t = quoted text → IsClosedQuote escapes text) (cs : List Char) :
    t.IsCut escapes (')' :: cs) := by
  cases t with
  | comment text => exact Bool.noConfusion significant
  | placeholder name => exact isCut_placeholder.2 (isCut_placeholder.1 cut)
  | plain c =>
    refine isCut_plain.2 ⟨(isCut_plain.1 cut).1, ?_⟩
    simp [takesIn, placeholder?, isNameRest]
  | quoted text =>
    obtain ⟨quote, run, rfl, whole⟩ := closed text rfl
    have opens := (isCut_quoted.1 cut).1
    refine isCut_quoted.2 ⟨opens, whole.quotedRest_append (ne_backslash_of_isQuote opens) ?_⟩
    rintro same
    obtain rfl : ')' = quote := Option.some.inj same
    exact absurd opens (by decide)

/-- The tokens of a text that is cut after one of them are those before the cut.  A token does not
need what follows it to be itself. -/
theorem tokens_flatMap_of_append_left {us : List Token}
    (own : tokens escapes ((ts ++ us).flatMap text) = ts ++ us) :
    tokens escapes (ts.flatMap text) = ts := by
  induction ts with
  | nil => rw [List.flatMap_nil, tokens]
  | cons t ts ih =>
    obtain ⟨cut, own'⟩ : t.IsCut escapes ((ts ++ us).flatMap text) ∧
        tokens escapes ((ts ++ us).flatMap text) = ts ++ us := tokens_flatMap_cons own
    refine tokens_append_eq_cons_iff.2 ⟨?_, ih own'⟩
    -- The token before the cut is the one that loses what followed it; all others still have
    -- their neighbour.
    cases ts with
    | nil => exact cut.nil
    | cons u ts =>
      obtain ⟨c, cs, characters, -⟩ := (tokens_flatMap_cons own').1.exists_next
      rw [List.flatMap_append] at cut
      have nonempty : (u :: ts).flatMap text ≠ [] := by simp [characters]
      have free := takesIn_eq_false_of_append nonempty cut.takesIn_eq_false
      obtain ⟨d, ds, split⟩ := List.exists_cons_of_ne_nil nonempty
      rw [split, List.cons_append] at cut
      exact cut.of_takesIn free

/-- A text whose last token is no filler and, if it is a quoted run, closed keeps its tokens
where a `)` follows. -/
theorem tokens_append_paren (own : tokens escapes (ts.flatMap text) = ts)
    (significant : ∀ t, ts.getLast? = some t → t.isSignificant = true)
    (closed : ∀ text, ts.getLast? = some (quoted text) → IsClosedQuote escapes text)
    (cs : List Char) :
    tokens escapes (ts.flatMap text ++ ')' :: cs) = ts ++ tokens escapes (')' :: cs) := by
  induction ts with
  | nil => rfl
  | cons t ts ih =>
    obtain ⟨cut, own'⟩ := tokens_flatMap_cons own
    rw [List.flatMap_cons, List.append_assoc, List.cons_append, tokens_append_eq_cons_iff]
    -- Here too only the last token gets a new neighbour.
    cases ts with
    | nil =>
      refine ⟨cut.append_paren (significant t rfl) (fun text same => closed text ?_) cs, rfl⟩
      rw [same, List.getLast?_singleton]
    | cons u us =>
      rw [List.getLast?_cons_cons] at significant closed
      refine ⟨?_, ih own' significant closed⟩
      obtain ⟨c, others, characters, -⟩ := (tokens_flatMap_cons own').1.exists_next
      have nonempty : (u :: us).flatMap text ≠ [] := by simp [characters]
      have free := takesIn_append_paren nonempty cut.takesIn_eq_false cs
      obtain ⟨d, ds, split⟩ := List.exists_cons_of_ne_nil nonempty
      rw [split] at cut
      exact cut.of_takesIn free

/-- A quoted run at the end of a text is closed if it does not take in a `)`. -/
theorem isClosedQuote_of_tokens_append_paren {run : List Char}
    (last : ts.getLast? = some (quoted run))
    (apart : tokens escapes (ts.flatMap text ++ [')']) = ts ++ tokens escapes [')']) :
    IsClosedQuote escapes run := by
  obtain ⟨before, rfl⟩ := List.getLast?_eq_some_iff.1 last
  have paren : tokens escapes [')'] = [plain ')'] := by simp [tokens, next]
  have own : tokens escapes ((before ++ [quoted run, plain ')']).flatMap text) =
      before ++ [quoted run, plain ')'] := by
    rw [paren, List.append_assoc] at apart
    rw [List.append_cons, List.flatMap_append, ← List.append_cons]
    exact apart
  obtain ⟨cut, -⟩ := tokens_flatMap_cons (tokens_flatMap_of_append own)
  obtain ⟨quote, inner, characters, -⟩ := cut.exists_next
  obtain rfl : run = quote :: inner := characters
  exact ⟨quote, inner, rfl, closedRun_of_quotedRest (isCut_quoted.1 cut).2⟩

end Token

namespace QueryScript

variable {s : QueryScript} {d : Dialect} {r : Request}

/-- Whether a script has no placeholder.  What is kept of such a script can be said without its
variables. -/
def IsFixed (s : QueryScript) (d : Dialect) : Prop :=
  ∀ t ∈ s.tokens d, t.isPlaceholder = false

/-- The tokens of a script are blanks, those that are kept, and filler. -/
theorem exists_tokens_eq (s : QueryScript) (d : Dialect) :
    ∃ blanks dropped, s.tokens d = blanks ++ (s.core d ++ dropped) ∧
      (∀ t ∈ blanks, t.isBlank = true) ∧ ∀ t ∈ dropped, t.isSignificant = false := by
  refine ⟨(upToLast Token.isSignificant (s.tokens d)).takeWhile Token.isBlank,
    (s.tokens d).rtakeWhile fun t => !t.isSignificant, ?_,
    fun t ht => List.mem_takeWhile_imp ht, fun t ht => ?_⟩
  · rw [core, ← List.append_assoc, List.takeWhile_append_dropWhile, upToLast_eq_rdropWhile,
      List.rdropWhile_append_rtakeWhile]
  · simpa using List.mem_rtakeWhile_imp ht

/-- What is kept of a script are tokens of it. -/
theorem mem_tokens_of_mem_core {t : Token} (h : t ∈ s.core d) : t ∈ s.tokens d :=
  (List.rdropWhile_prefix _ _).subset ((List.dropWhile_sublist _).subset h)

/-- Blanks are filler, so the cut in front does not reach the last significant token. -/
theorem isBlank_eq_false_of_isSignificant {t : Token} (h : t.isSignificant = true) :
    t.isBlank = false := by
  cases t with
  | plain c => simpa [Token.isBlank] using (Bool.and_eq_true_iff.1 h).2
  | _ => rfl

/-- What is left after the cut at the end ends with no filler. -/
theorem isSignificant_of_getLast?_upToLast {ts : List Token} {t : Token}
    (h : (upToLast Token.isSignificant ts).getLast? = some t) : t.isSignificant = true := by
  rw [upToLast_eq_rdropWhile] at h
  obtain ⟨nonempty, rfl⟩ := List.mem_getLast?_eq_getLast h
  simpa using List.rdropWhile_last_not _ _ nonempty

/-- What is kept ends with no filler. -/
theorem isSignificant_of_getLast?_core {t : Token} (h : (s.core d).getLast? = some t) :
    t.isSignificant = true := by
  have last : (upToLast Token.isSignificant (s.tokens d)).getLast? = some t := by
    rw [core] at h
    rw [← List.takeWhile_append_dropWhile (p := Token.isBlank)
      (l := upToLast Token.isSignificant (s.tokens d)), List.getLast?_append, h]
    rfl
  exact isSignificant_of_getLast?_upToLast last

/-- Nothing is kept of filler alone. -/
theorem core_eq_nil_iff : s.core d = [] ↔ ∀ t ∈ s.tokens d, t.isSignificant = false := by
  have nothing : upToLast Token.isSignificant (s.tokens d) = [] ↔
      ∀ t ∈ s.tokens d, t.isSignificant = false := by
    rw [upToLast_eq_rdropWhile, List.rdropWhile_eq_nil_iff]
    simp
  rw [← nothing, core, List.dropWhile_eq_nil_iff]
  refine ⟨fun blank => ?_, fun none => by simp [none]⟩
  cases last : (upToLast Token.isSignificant (s.tokens d)).getLast? with
  | none => exact List.getLast?_eq_none_iff.1 last
  | some t =>
    have solid := isBlank_eq_false_of_isSignificant (isSignificant_of_getLast?_upToLast last)
    exact absurd (blank t (List.mem_of_getLast? last)) (by simp [solid])

/-- Without placeholders the text is that of the tokens. -/
theorem textOf_of_no_placeholder {ts : List Token} (fixed : ∀ t ∈ ts, t.isPlaceholder = false) :
    s.textOf d ts = ts.flatMap Token.text :=
  List.flatMap_congr fun t ht => pieceText_of_not_isPlaceholder (fixed t ht)

/-- A token that is no placeholder cannot be refused. -/
theorem spliceToken_of_not_isPlaceholder {t : Token} (h : t.isPlaceholder = false) :
    s.spliceToken d t = .ok t.text := by
  cases t with
  | placeholder name => exact Bool.noConfusion h
  | _ => rfl

/-- The kept tokens are the tokens of their own text.  So what is rendered can be looked at again as
a script. -/
theorem tokens_core (s : QueryScript) (d : Dialect) :
    Token.tokens d.backslashEscapes ((s.core d).flatMap Token.text) = s.core d := by
  obtain ⟨blanks, dropped, whole, -, -⟩ := s.exists_tokens_eq d
  have own : Token.tokens d.backslashEscapes ((s.tokens d).flatMap Token.text) = s.tokens d := by
    rw [tokens, Token.flatMap_text_tokens]
  rw [whole] at own
  exact Token.tokens_flatMap_of_append_left (Token.tokens_flatMap_of_append own)

/-- The text of a part is empty only if the part is, since no token is. -/
theorem flatMap_text_core_eq_nil_iff :
    (s.core d).flatMap Token.text = [] ↔ s.core d = [] := by
  refine ⟨fun none => ?_, fun none => by rw [none]; rfl⟩
  rw [← s.tokens_core d, none, Token.tokens]

/-- A script without placeholders becomes what is kept of it. -/
theorem splice_of_isFixed (fixed : s.IsFixed d) :
    s.splice d = if s.core d = [] then .error (.render "script is empty")
      else .ok ((s.core d).flatMap Token.text) := by
  obtain ⟨dropped, whole⟩ := exists_append_upToLast Token.isSignificant (s.tokens d)
  have own : Token.tokens d.backslashEscapes
      ((upToLast Token.isSignificant (s.tokens d) ++ dropped).flatMap Token.text) =
        upToLast Token.isSignificant (s.tokens d) ++ dropped := by
    rw [whole, tokens, Token.flatMap_text_tokens]
  have fixed' : ∀ t ∈ upToLast Token.isSignificant (s.tokens d), t.isPlaceholder = false :=
    fun t ht => fixed t (whole ▸ List.mem_append_left dropped ht)
  have pieces : s.splicePieces d = .ok ((s.tokens d).map fun t => (t, t.text)) :=
    mapM_eq_ok fun t ht => by rw [spliceToken_of_not_isPlaceholder (fixed t ht)]; rfl
  -- With no placeholders what is written in place of the tokens is the tokens' own text, so the
  -- general fact about trimming applies.
  have kept : Text.trimStart ((upToLast (fun piece : Token × List Char => piece.1.isSignificant)
      ((s.tokens d).map fun t => (t, t.text))).flatMap (·.2)) = (s.core d).flatMap Token.text := by
    have values : ∀ t ∈ upToLast Token.isSignificant (s.tokens d), t.isPlaceholder = true →
        Token.IsValue d.backslashEscapes (s.pieceText d t) :=
      fun t ht kind => absurd kind (by simp [fixed' t ht])
    have trimmed := trimStart_textOf own values
    rw [textOf_of_no_placeholder fixed', ← core, textOf_of_no_placeholder fun t ht =>
      fixed t (mem_tokens_of_mem_core ht)] at trimmed
    rw [upToLast_map, List.flatMap_map]
    exact trimmed
  rw [splice, pieces]
  simp only [bind, Except.bind, kept, List.isEmpty_iff, flatMap_text_core_eq_nil_iff]

/-- A script without placeholders is rendered as what is kept of it. -/
theorem render_scriptOnly_of_isFixed (fixed : s.IsFixed d) :
    d.render s r .scriptOnly = if s.core d = [] then .error (.render "script is empty")
      else .ok (String.ofList ((s.core d).flatMap Token.text)) := by
  rw [Dialect.render, Dialect.renderChars, splice_of_isFixed fixed]
  split <;> rfl

/-- A script that is what is kept of another one is kept as a whole.  This is why rendering twice is
rendering once. -/
theorem core_of_script {s' : QueryScript}
    (script : s'.script = String.ofList ((s.core d).flatMap Token.text)) :
    s'.tokens d = s.core d ∧ s'.core d = s.core d := by
  have same : s'.tokens d = s.core d := by
    rw [tokens, script, String.toList_ofList, tokens_core]
  refine ⟨same, ?_⟩
  have significant : upToLast Token.isSignificant (s.core d) = s.core d := by
    rw [upToLast_eq_rdropWhile, List.rdropWhile_eq_self_iff]
    intro nonempty
    simp [isSignificant_of_getLast?_core (List.getLast?_eq_getLast_of_ne_nil nonempty)]
  rw [core, same, significant, core, List.dropWhile_idempotent]

/-- The text of a script is blanks, what is kept, and what is filler on its own. -/
theorem exists_script_eq (s : QueryScript) (d : Dialect) :
    ∃ before after, s.script.toList = before ++ ((s.core d).flatMap Token.text ++ after) ∧
      (∀ c ∈ before, Text.isBlank c = true) ∧
      ∀ t ∈ Token.tokens d.backslashEscapes after, t.isSignificant = false := by
  obtain ⟨blanks, dropped, whole, blank, filler⟩ := s.exists_tokens_eq d
  refine ⟨blanks.flatMap Token.text, dropped.flatMap Token.text, ?_, fun c hc => ?_, ?_⟩
  · rw [← Token.flatMap_text_tokens d.backslashEscapes s.script.toList]
    have parts := congrArg (List.flatMap Token.text) whole
    rwa [List.flatMap_append, List.flatMap_append] at parts
  · obtain ⟨t, ht, inside⟩ := List.mem_flatMap.1 hc
    have isBlank := blank t ht
    cases t with
    | plain b =>
      obtain rfl := List.mem_singleton.1 inside
      exact isBlank
    | _ => exact Bool.noConfusion isBlank
  -- Filler at the end is cut by itself as it was cut in the script, since it is a tail of the
  -- script's tokens.
  · have own : Token.tokens d.backslashEscapes ((s.tokens d).flatMap Token.text) = s.tokens d := by
      rw [tokens, Token.flatMap_text_tokens]
    rw [whole, ← List.append_assoc] at own
    rwa [Token.tokens_flatMap_of_append own]

/-- **A script is cut, and nothing else is touched.**  A script without placeholders is
refused as empty exactly if it is filler alone.  Any other one is rendered as a part of it,
in front of which are blanks and behind which is filler; the part ends with no filler, is
rendered as itself, and keeps its tokens in front of whatever starts with a `)` exactly if it
does not end with a quoted run that is not closed. -/
theorem render_scriptOnly_cut (fixed : s.IsFixed d) (r : Request) :
    (d.render s r .scriptOnly = .error (.render "script is empty") ↔
      ∀ t ∈ s.tokens d, t.IsFiller) ∧
    ((∃ t ∈ s.tokens d, ¬ t.IsFiller) → ∃ sql, d.render s r .scriptOnly = .ok sql ∧
      (∃ before after, s.script.toList = before ++ (sql.toList ++ after) ∧
        (∀ c ∈ before, Text.isBlank c = true) ∧
        ∀ t ∈ Token.tokens d.backslashEscapes after, t.IsFiller) ∧
      (∀ (s' : QueryScript) (r' : Request), s'.script = sql →
        d.render s' r' .scriptOnly = .ok sql) ∧
      ∃ last, (Token.tokens d.backslashEscapes sql.toList).getLast? = some last ∧
        ¬ last.IsFiller ∧
        ((∀ text, last = .quoted text → Token.IsClosedQuote d.backslashEscapes text) ↔
          ∀ cs, Token.tokens d.backslashEscapes (sql.toList ++ ')' :: cs) =
            Token.tokens d.backslashEscapes sql.toList ++
              Token.tokens d.backslashEscapes (')' :: cs))) := by
  -- Both halves are about what is kept of the script: nothing, or something that does not end
  -- with filler.
  have filler : (∀ t ∈ s.tokens d, t.IsFiller) ↔ s.core d = [] := by
    rw [core_eq_nil_iff]
    exact forall₂_congr fun t _ => Token.isSignificant_eq_false_iff.symm
  constructor
  · rw [filler, render_scriptOnly_of_isFixed fixed]
    split <;> simp [*]
  · rintro ⟨t, ht, solid⟩
    have nonempty : s.core d ≠ [] := fun none => solid (filler.2 none t ht)
    have own := s.tokens_core d
    refine ⟨String.ofList ((s.core d).flatMap Token.text), ?_, ?_, ?_, ?_⟩
    · rw [render_scriptOnly_of_isFixed fixed, if_neg nonempty]
    · obtain ⟨before, after, whole, blank, dropped⟩ := s.exists_script_eq d
      rw [String.toList_ofList]
      exact ⟨before, after, whole, blank, fun t ht =>
        Token.isSignificant_eq_false_iff.1 (dropped t ht)⟩
    -- Rendered again, the part is a script of its own, without placeholders; what is kept of it
    -- is all of it.
    · intro s' r' script
      obtain ⟨same, kept⟩ := core_of_script script
      have fixed' : s'.IsFixed d := fun t ht => fixed t (mem_tokens_of_mem_core (same ▸ ht))
      rw [render_scriptOnly_of_isFixed fixed', kept, if_neg nonempty]
    · have last := List.getLast?_eq_getLast_of_ne_nil nonempty
      rw [String.toList_ofList, own]
      refine ⟨_, last, fun isFiller => ?_, fun closed cs => ?_, fun apart text ht => ?_⟩
      · rw [← Token.isSignificant_eq_false_iff, isSignificant_of_getLast?_core last] at isFiller
        exact Bool.noConfusion isFiller
      -- The last token is no filler, so it is closed by what follows unless it is a quoted run
      -- without an end.
      · refine Token.tokens_append_paren own (fun t ht => isSignificant_of_getLast?_core ht)
          (fun text ht => closed text ?_) cs
        exact Option.some.inj (last.symm.trans ht)
      · exact Token.isClosedQuote_of_tokens_append_paren (ht ▸ last) (apart [])

/-- The hypotheses are satisfiable: a script with a quoted comment, a real one behind it and
a semicolon is cut after the quoted run, and what is wrapped around it stays outside. -/
theorem render_scriptOnly_cut_note :
    let s := QueryScript.ofText " SELECT '--' -- note\n;"
    let d := Product.sqlite.dialect
    s.IsFixed d ∧ (∃ t ∈ s.tokens d, ¬ t.IsFiller) ∧
      d.render s (.ofPage .first) .scriptOnly = .ok "SELECT '--'" ∧
      Token.tokens d.backslashEscapes "SELECT '--') V_SRC".toList =
        Token.tokens d.backslashEscapes "SELECT '--'".toList ++
          Token.tokens d.backslashEscapes ") V_SRC".toList := by
  intro s d
  have fixed : s.IsFixed d := by unfold IsFixed; decide +kernel
  -- The first letter of the script is no filler.
  have solid : ∃ t ∈ s.tokens d, ¬ t.IsFiller := by
    refine ⟨.plain 'S', by decide +kernel, ?_⟩
    rw [← Token.isSignificant_eq_false_iff]
    decide +kernel
  obtain ⟨sql, rendered, -, -, last, ends, -, wraps⟩ :=
    (render_scriptOnly_cut fixed (.ofPage .first)).2 solid
  have known : d.render s (.ofPage .first) .scriptOnly = .ok "SELECT '--'" :=
    ok_of_toOption (by decide +kernel)
  obtain rfl := Except.ok.inj (rendered.symm.trans known)
  have closing : (Token.tokens d.backslashEscapes "SELECT '--'".toList).getLast? =
      some (.quoted "'--'".toList) := by decide +kernel
  obtain rfl := Option.some.inj (ends.symm.trans closing)
  refine ⟨fixed, solid, rendered, wraps.1 (fun text same => ?_) " V_SRC".toList⟩
  obtain rfl := Token.quoted.inj same
  refine ⟨'\'', ['-', '-', '\''], rfl, ?_⟩
  exact .other (by decide) (by decide) (.other (by decide) (by decide) .close)

/-- A quoted run that is not closed takes in what is wrapped around it. -/
example : Token.tokens false "'a".toList = [.quoted ['\'', 'a']] ∧
    Token.tokens false "'a)".toList = [.quoted ['\'', 'a', ')']] := by
  decide +kernel

end QueryScript
end PagedQuery
