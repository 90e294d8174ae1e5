/-
# Values in their places

A script is rendered by writing the text of a variable in place of each placeholder.  Values are
not surrounded by anything, so a token at the edge of a value can take in what follows it: a `-`
in the script a signed number, a quoted run in the script a value that starts with its quote, a
value a quote of the script.  The rendered text has the tokens of the script with those of the
values in their places exactly if this happens nowhere (`tokens_render_iff`).  No other token of
the script depends on the values, and a script that leaves room around its placeholders is safe
whatever they are (`isSeamless_of_leavesRoom`).

The tokens of a script are those from its first one that is no blank to its last significant one
(`QueryScript.core`).  What was read there was read in front of the rest of the script, and what
is written is read in front of the rest of the text, so the induction is over the tokens with all
that follows them (`tokens_textOf_iff`).  The one token that looks further than one character
ahead is `$`; `head?_dropWhile_textOf` is about it alone.
-/

import PagedQuery.Dialect.Product
import PagedQuery.Proofs.Script.Value
import PagedQuery.Select

namespace PagedQuery

namespace Token

/-- Whether a token stands for a value. -/
def isPlaceholder : Token → Bool
  | placeholder _ => true
  | _ => false

/-- Whether a token is a blank. -/
def isBlank : Token → Bool
  | plain c => Text.isBlank c
  | _ => false

end Token

namespace QueryScript

/-- The tokens of a script without those that are dropped around it: the blanks in front and all
filler behind. -/
def core (s : QueryScript) (d : Dialect) : List Token :=
  (upToLast Token.isSignificant (s.tokens d)).dropWhile Token.isBlank

/-- What is written in place of a token, nothing if it is refused.  In a script that can be spliced
none is, so the second case never shows. -/
def pieceText (s : QueryScript) (d : Dialect) (t : Token) : List Char :=
  match s.spliceToken d t with
  | .ok text => text
  | .error _ => []

/-- What is written in place of tokens. -/
def textOf (s : QueryScript) (d : Dialect) (ts : List Token) : List Char :=
  ts.flatMap (s.pieceText d)

/-- The tokens in place of a token: for a placeholder those of the value on its own.  Every other
token stands for itself. -/
def placed (s : QueryScript) (d : Dialect) (t : Token) : List Token :=
  if t.isPlaceholder then Token.tokens d.backslashEscapes (s.pieceText d t) else [t]

/-- Whether a value starts or ends between a token and those after it.  Between any other two tokens
the text is that of the script. -/
def isSeam (t : Token) (ts : List Token) : Bool :=
  t.isPlaceholder || ts.head?.any Token.isPlaceholder

/-- Whether nothing at the edge of a value takes in what follows it.  Of a value its last token is
looked at, and what follows is the text as it will be written, with all values behind it. -/
def isSeamless (s : QueryScript) (d : Dialect) : List Token → Bool
  | [] => true
  | t :: ts =>
    (!isSeam t ts || (s.placed d t).getLast?.all fun last => !last.takesIn (s.textOf d ts)) &&
      s.isSeamless d ts

end QueryScript

namespace Token

variable {escapes : Bool} {t : Token} {rest : List Char}

/-- A token that starts with a character that is a token whatever follows it is that
character. -/
theorem IsCut.eq_plain (h : t.IsCut escapes rest) {c : Char} {cs : List Char}
    (characters : t.text = c :: cs) (simple : isSimple c = true) : t = plain c := by
  simp only [isSimple, Bool.and_eq_true, Bool.not_eq_true', bne_iff_ne, ne_eq] at simple
  obtain ⟨⟨⟨apart, dollar⟩, minus⟩, slash⟩ := simple
  have single : (plain c).IsCut escapes (cs ++ rest) :=
    isCut_plain.2 ⟨apart, by simp [takesIn, dollar, minus, slash]⟩
  have whole : t.text ++ rest = c :: (cs ++ rest) := by rw [characters, List.cons_append]
  have first := (isCut_iff_next whole).1 h
  have whole' : (plain c).text ++ (cs ++ rest) = c :: (cs ++ rest) := rfl
  have first' := (isCut_iff_next whole').1 single
  exact congrArg Prod.fst (first.symm.trans first')

/-- The tokens of a text whose first tokens are left out are the others. -/
theorem tokens_flatMap_of_append {ts us : List Token}
    (own : tokens escapes ((ts ++ us).flatMap text) = ts ++ us) :
    tokens escapes (us.flatMap text) = us := by
  induction ts with
  | nil => exact own
  | cons t ts ih => exact ih (tokens_flatMap_cons own).2

/-- There is a placeholder where a name starts and ends with `$`.  The name is followed through to
its end, which is what sets `$` apart from all other tokens. -/
theorem isSome_placeholder? {cs : List Char} :
    (placeholder? cs).isSome = true ↔
      cs.head?.any isNameStart = true ∧ (cs.dropWhile isNameRest).head? = some '$' := by
  constructor
  · intro h
    obtain ⟨⟨name, rest⟩, found⟩ := Option.isSome_iff_exists.1 h
    obtain ⟨rfl, inside, starts⟩ := placeholder?_eq_some_iff.1 found
    refine ⟨?_, ?_⟩
    · cases name with
      | nil => simp at starts
      | cons c cs => exact starts
    · rw [List.dropWhile_append_of_pos inside, List.dropWhile_cons_of_neg (by decide)]
      rfl
  · rintro ⟨starts, ends⟩
    obtain ⟨rest, left⟩ := List.head?_eq_some_iff.1 ends
    have whole : cs = cs.takeWhile isNameRest ++ '$' :: rest := by
      rw [← left, List.takeWhile_append_dropWhile]
    -- A character that may start a name may also go on with one.
    have first : (cs.takeWhile isNameRest).head?.any isNameStart = true := by
      cases cs with
      | nil => simp at starts
      | cons c cs =>
        have start : isNameStart c = true := starts
        have inside : isNameRest c = true := by
          rw [isNameStart, Bool.or_eq_true] at start
          rw [isNameRest, Char.isAlphanum]
          rcases start with letter | line <;> simp [*]
        rw [List.takeWhile_cons_of_pos inside]
        exact start
    have inside : ∀ c ∈ cs.takeWhile isNameRest, isNameRest c = true :=
      fun c hc => List.all_eq_true.1 List.all_takeWhile c hc
    rw [placeholder?_eq_some_iff.2 ⟨whole, inside, first⟩]
    rfl

/-- Whether a token neither takes in a value nor is taken in by one.  The star is left out because a
`/` of a value would take it in. -/
def isApart : Token → Bool
  | plain c => isSimple c && c != '*'
  | _ => false

/-- No token of a value takes in a character that is apart. -/
theorem IsLiteral.takesIn_of_isApart (h : t.IsLiteral escapes) {c : Char}
    (apart : (Token.plain c).isApart = true) (cs : List Char) :
    t.takesIn (c :: cs) = false := by
  simp only [isApart, isSimple, Bool.and_eq_true, Bool.not_eq_true', bne_iff_ne, ne_eq] at apart
  obtain ⟨⟨⟨⟨quote, -⟩, minus⟩, -⟩, star⟩ := apart
  cases h with
  | plain _ dollar => simp [takesIn, dollar, minus, star]
  | @quoted other run opens _ =>
    have ne : other ≠ c := by
      rintro rfl
      rw [opens] at quote
      exact Bool.noConfusion quote
    simp [takesIn, ne]

end Token

namespace QueryScript

variable {s : QueryScript} {d : Dialect} {t : Token} {ts rest : List Token}

/-- A token that stands for no value is written as it is. -/
theorem pieceText_of_not_isPlaceholder (h : t.isPlaceholder = false) :
    s.pieceText d t = t.text := by
  cases t with
  | placeholder name => exact Bool.noConfusion h
  | _ => rfl

/-- Tokens are written one after another. -/
theorem textOf_cons (t : Token) (ts : List Token) :
    s.textOf d (t :: ts) = s.pieceText d t ++ s.textOf d ts :=
  rfl

/-- A text whose first token stands for no value starts as the script does there.  What a token
takes in is mostly known from this one character. -/
theorem head?_textOf_cons {escapes : Bool} {cs : List Char} (h : t.isPlaceholder = false)
    (cut : t.IsCut escapes cs) (more : List Char) :
    (s.textOf d (t :: ts)).head? = (t.text ++ more).head? := by
  obtain ⟨c, cs, characters, -⟩ := cut.exists_next
  rw [textOf_cons, pieceText_of_not_isPlaceholder h, characters]
  rfl

section Own

variable (own : Token.tokens d.backslashEscapes ((ts ++ rest).flatMap Token.text) = ts ++ rest)
include own

/-- Where the script has no `$` after a name, the text has none. -/
theorem head?_dropWhile_textOf
    (h : (((ts ++ rest).flatMap Token.text).dropWhile Token.isNameRest).head? ≠ some '$') :
    ((s.textOf d ts).dropWhile Token.isNameRest).head? ≠ some '$' := by
  induction ts with
  | nil => simp [textOf]
  | cons t ts ih =>
    obtain ⟨cut, own'⟩ := Token.tokens_flatMap_cons own
    obtain ⟨c, cs, characters, -⟩ := cut.exists_next
    rw [List.cons_append, List.flatMap_cons, characters, List.cons_append] at h
    by_cases name : Token.isNameRest c = true
    · -- the name goes on: the token is a single character
      obtain rfl := cut.eq_plain characters (Token.isSimple_of_class name (by decide))
      obtain rfl : cs = [] := (List.cons.inj characters).2.symm
      rw [List.dropWhile_cons_of_pos name] at h
      rw [textOf_cons, pieceText_of_not_isPlaceholder rfl, Token.text, List.singleton_append,
        List.dropWhile_cons_of_pos name]
      exact ih own' h
    · rw [List.dropWhile_cons_of_neg name] at h
      have ne : c ≠ '$' := fun same => h (congrArg some same)
      have other : t.isPlaceholder = false := by
        cases t with
        | placeholder _ => exact absurd (List.cons.inj characters).1.symm ne
        | _ => rfl
      rw [textOf_cons, pieceText_of_not_isPlaceholder other, characters, List.cons_append,
        List.dropWhile_cons_of_neg name]
      exact h

/-- Between two tokens of the script nothing changes: the first one takes in nothing.  It did not
take in the second one in the script, and the second one is still there. -/
theorem takesIn_textOf_eq_false {u : Token}
    (cut : t.IsCut d.backslashEscapes ((ts ++ rest).flatMap Token.text))
    (next : ts.head? = some u) (other : u.isPlaceholder = false) :
    t.takesIn (s.textOf d ts) = false := by
  obtain ⟨us, rfl⟩ := List.head?_eq_some_iff.1 next
  have same : (s.textOf d (u :: us)).head? = ((u :: us ++ rest).flatMap Token.text).head? :=
    head?_textOf_cons other (Token.tokens_flatMap_cons own).1 _
  have free := cut.takesIn_eq_false
  by_cases dollar : t = .plain '$'
  · subst dollar
    have known : ∀ cs, (Token.plain '$').takesIn cs = (Token.placeholder? cs).isSome :=
      fun cs => by simp [Token.takesIn]
    rw [known, ← Bool.not_eq_true, Token.isSome_placeholder?] at free ⊢
    rintro ⟨starts, ends⟩
    refine free ⟨same ▸ starts, Decidable.byContradiction fun h => ?_⟩
    exact head?_dropWhile_textOf own h ends
  · rwa [Token.takesIn_congr dollar same]

end Own

/-- The tokens of the text are those of the script with the values in their places exactly if
nothing at the edge of a value takes in what follows it.  What follows the tokens in the script
(`rest`) is dropped in the text; the tokens were read in front of it, so it has to be in the
hypothesis. -/
theorem tokens_textOf_iff
    (own : Token.tokens d.backslashEscapes ((ts ++ rest).flatMap Token.text) = ts ++ rest)
    (values : ∀ t ∈ ts, t.isPlaceholder = true →
      Token.IsValue d.backslashEscapes (s.pieceText d t)) :
    Token.tokens d.backslashEscapes (s.textOf d ts) = ts.flatMap (s.placed d) ↔
      s.isSeamless d ts = true := by
  -- On the tokens of the script from the left: each is cut off what comes behind it, and what
  -- comes behind it is a question about the tokens that are left.
  induction ts with
  | nil => simp [textOf, Token.tokens, isSeamless]
  | cons t ts ih =>
    obtain ⟨cut, own'⟩ : t.IsCut d.backslashEscapes ((ts ++ rest).flatMap Token.text) ∧
        Token.tokens d.backslashEscapes ((ts ++ rest).flatMap Token.text) = ts ++ rest :=
      Token.tokens_flatMap_cons own
    have ih := ih own' fun u hu => values u (List.mem_cons_of_mem _ hu)
    rw [isSeamless, Bool.and_eq_true, ← ih, textOf_cons, List.flatMap_cons]
    cases kind : t.isPlaceholder with
    | true =>
      have value := values t (List.mem_cons_self ..) kind
      have placed : s.placed d t = Token.tokens d.backslashEscapes (s.pieceText d t) := if_pos kind
      have seam : isSeam t ts = true := by rw [isSeam, kind, Bool.true_or]
      have whole := Token.flatMap_text_tokens d.backslashEscapes (s.pieceText d t)
      -- A value's tokens stay what they are if its last one does not take in what follows.
      have moved := @Token.tokens_flatMap_append_iff d.backslashEscapes (s.textOf d ts)
        (Token.tokens d.backslashEscapes (s.pieceText d t)) (ts.flatMap (s.placed d)) value.literal
        (by rw [whole])
      rw [whole] at moved
      rw [placed, seam, Bool.not_true, Bool.false_or, Option.all_eq_true]
      simpa only [Bool.not_eq_true', Option.mem_def] using moved
    | false =>
      have placed : s.placed d t = [t] := by rw [QueryScript.placed, kind]; rfl
      rw [placed, pieceText_of_not_isPlaceholder kind, List.singleton_append,
        Token.tokens_append_eq_cons_iff, List.getLast?_singleton, Option.all_some]
      -- A token of the script: it was cut off in the script already, so it is cut off here too,
      -- unless a value follows and is taken in.
      refine and_congr ⟨fun h => ?_, fun h => ?_⟩ Iff.rfl
      · rw [h.takesIn_eq_false, Bool.not_false, Bool.or_true]
      · cases ts with
        | nil => exact cut.nil
        | cons u us =>
          obtain ⟨c, cs, characters, -⟩ := (Token.tokens_flatMap_cons own').1.exists_next
          have cut' := cut
          rw [List.cons_append, List.flatMap_cons, characters, List.cons_append] at cut
          refine cut.of_takesIn ?_
          cases value : u.isPlaceholder with
          | true =>
            have seam : isSeam t (u :: us) = true := by
              rw [isSeam, List.head?_cons, Option.any_some, value, Bool.or_true]
            simpa [seam] using h
          | false => exact takesIn_textOf_eq_false own' cut' rfl value

/-! ### Scripts that leave room -/

/-- Whether every value is between tokens that are apart from it. -/
def leavesRoom : List Token → Bool
  | [] => true
  | t :: ts => (!isSeam t ts || t.isApart || ts.head?.all Token.isApart) && leavesRoom ts

/-- **A script that leaves room** around its placeholders has all values keep to their
places, whatever they are. -/
theorem isSeamless_of_leavesRoom
    (values : ∀ t ∈ ts, t.isPlaceholder = true →
      Token.IsValue d.backslashEscapes (s.pieceText d t))
    (room : leavesRoom ts = true) : s.isSeamless d ts = true := by
  induction ts with
  | nil => rfl
  | cons t ts ih =>
    rw [leavesRoom, Bool.and_eq_true] at room
    obtain ⟨here, later⟩ := room
    rw [isSeamless, Bool.and_eq_true]
    refine ⟨?_, ih (fun u hu => values u (List.mem_cons_of_mem _ hu)) later⟩
    cases seam : isSeam t ts with
    | false => rfl
    | true =>
      rw [Bool.not_true, Bool.false_or, Option.all_eq_true]
      intro last isLast
      rw [Bool.not_eq_true']
      rw [seam, Bool.not_true, Bool.false_or, Bool.or_eq_true] at here
      -- Room is either before a value, a character that takes nothing in, or behind it, one that
      -- nothing takes in.
      rcases here with before | after
      · cases t with
        | plain c =>
          obtain rfl : Token.plain c = last := Option.some.inj isLast
          simp only [Token.isApart, Token.isSimple, Bool.and_eq_true, bne_iff_ne, ne_eq] at before
          obtain ⟨⟨⟨⟨-, dollar⟩, minus⟩, slash⟩, -⟩ := before
          simp [Token.takesIn, dollar, minus, slash]
        | _ => exact Bool.noConfusion before
      · cases ts with
        | nil => exact Token.takesIn_nil last
        | cons u us =>
          cases u with
          | plain c =>
            have kind : t.isPlaceholder = true := by simpa [isSeam, Token.isPlaceholder] using seam
            have value := values t (List.mem_cons_self ..) kind
            rw [placed, if_pos kind] at isLast
            exact (value.literal last (List.mem_of_getLast? isLast)).takesIn_of_isApart after _
          | _ => exact Bool.noConfusion after

/-! ### The rendered text -/

/-- What is cut off the end of a list is the end of the list. -/
theorem exists_append_upToLast {α : Type} (isKept : α → Bool) (xs : List α) :
    ∃ dropped, upToLast isKept xs ++ dropped = xs := by
  have whole : upToLast isKept xs <+: xs := by
    rw [upToLast, ← List.reverse_suffix, List.reverse_reverse]
    exact List.dropWhile_suffix _
  exact whole

/-- What is cut off does not depend on what is kept beside the members. -/
theorem upToLast_map {α β : Type} (isKept : β → Bool) (f : α → β) (xs : List α) :
    upToLast isKept (xs.map f) = (upToLast (fun x => isKept (f x)) xs).map f := by
  rw [upToLast, upToLast, ← List.map_reverse, List.dropWhile_map, List.map_reverse]
  rfl

/-- The pieces of a script that can be spliced are its tokens with what is written in their
places. -/
theorem splicePieces_eq {pieces : List (Token × List Char)} (h : s.splicePieces d = .ok pieces) :
    pieces = (s.tokens d).map (fun t => (t, s.pieceText d t)) ∧
      ∀ t ∈ s.tokens d, s.spliceToken d t = .ok (s.pieceText d t) := by
  have each := mapM_eq_ok_iff.1 h
  have spliced : ∀ t ∈ s.tokens d, s.spliceToken d t = .ok (s.pieceText d t) := by
    intro t ht
    have mem := List.mem_map_of_mem (f := fun t => (s.spliceToken d t).map fun text => (t, text)) ht
    rw [each] at mem
    obtain ⟨piece, -, same⟩ := List.mem_map.1 mem
    unfold pieceText
    cases result : s.spliceToken d t with
    | ok text => rfl
    | error e => rw [result] at same; exact absurd same (by simp [Except.map])
  refine ⟨?_, spliced⟩
  -- Two lists are the same if their elements are, each of them successful.
  have same : pieces.map (Except.ok : _ → Except Failure (Token × List Char)) =
      ((s.tokens d).map fun t => (t, s.pieceText d t)).map .ok := by
    rw [← each, List.map_map]
    refine List.map_congr_left fun t ht => ?_
    rw [spliced t ht]
    rfl
  exact (List.map_inj_right fun _ _ h => Except.ok.inj h).1 same

/-- Blanks in front are those of the script.  No value starts with a blank, so trimming the text
does not reach into one. -/
theorem trimStart_textOf
    (own : Token.tokens d.backslashEscapes ((ts ++ rest).flatMap Token.text) = ts ++ rest)
    (values : ∀ t ∈ ts, t.isPlaceholder = true →
      Token.IsValue d.backslashEscapes (s.pieceText d t)) :
    Text.trimStart (s.textOf d ts) = s.textOf d (ts.dropWhile Token.isBlank) := by
  induction ts with
  | nil => rfl
  | cons t ts ih =>
    obtain ⟨cut, own'⟩ : t.IsCut d.backslashEscapes ((ts ++ rest).flatMap Token.text) ∧
        Token.tokens d.backslashEscapes ((ts ++ rest).flatMap Token.text) = ts ++ rest :=
      Token.tokens_flatMap_cons own
    have ih := ih own' fun u hu => values u (List.mem_cons_of_mem _ hu)
    -- a piece that starts with no blank is where the text starts
    have starts : ∀ c cs, s.pieceText d t = c :: cs → Text.isBlank c = false →
        Token.isBlank t = false →
        Text.trimStart (s.textOf d (t :: ts)) =
          s.textOf d ((t :: ts).dropWhile Token.isBlank) := by
      intro c cs piece solid solid'
      have head : ¬ Text.isBlank c = true := Bool.eq_false_iff.1 solid
      have first : ¬ Token.isBlank t = true := Bool.eq_false_iff.1 solid'
      rw [List.dropWhile_cons_of_neg first, textOf_cons, piece, List.cons_append, Text.trimStart,
        List.dropWhile_cons_of_neg head]
    cases kind : t.isPlaceholder with
    | true =>
      obtain ⟨-, c, cs, piece, solid⟩ := values t (List.mem_cons_self ..) kind
      refine starts c cs piece solid ?_
      cases t with
      | placeholder _ => rfl
      | _ => exact Bool.noConfusion kind
    | false =>
      obtain ⟨c, cs, characters, -⟩ := cut.exists_next
      have piece : s.pieceText d t = c :: cs :=
        (pieceText_of_not_isPlaceholder kind).trans characters
      cases blank : Text.isBlank c with
      | true =>
        obtain rfl := cut.eq_plain characters (Token.isSimple_of_class blank (by decide))
        obtain rfl : cs = [] := (List.cons.inj characters).2.symm
        have first : Token.isBlank (.plain c) = true := blank
        rw [List.dropWhile_cons_of_pos first, ← ih, textOf_cons, piece, List.singleton_append,
          Text.trimStart, List.dropWhile_cons_of_pos blank]
        rfl
      | false =>
        refine starts c cs piece blank ?_
        cases t with
        | plain e =>
          obtain rfl : e = c := (List.cons.inj characters).1
          exact blank
        | _ => rfl

/-- A script that can be spliced becomes what is written in place of its tokens, and every
token has something written in its place. -/
theorem splice_eq {source : List Char} (h : s.splice d = .ok source) :
    source = Text.trimStart (s.textOf d (upToLast Token.isSignificant (s.tokens d))) ∧
      ∀ t ∈ s.tokens d, s.spliceToken d t = .ok (s.pieceText d t) := by
  rw [splice] at h
  cases pieces : s.splicePieces d with
  | error e => rw [pieces] at h; exact absurd h (by simp [bind, Except.bind])
  | ok parts =>
    obtain ⟨rfl, spliced⟩ := splicePieces_eq pieces
    refine ⟨?_, spliced⟩
    -- What is dropped at the end is seen from the tokens, not from what is written in their
    -- place.
    have kept : (upToLast (fun piece : Token × List Char => piece.1.isSignificant)
        ((s.tokens d).map fun t => (t, s.pieceText d t))).flatMap (·.2) =
          s.textOf d (upToLast Token.isSignificant (s.tokens d)) := by
      rw [upToLast_map, List.flatMap_map]
      rfl
    simp only [pieces, bind, Except.bind, kept] at h
    split at h
    · simp at h
    · exact (Except.ok.inj h).symm

/-- The values of a script without fragments are made of literal tokens.  A fragment is SQL that its
caller vouches for, and of that nothing is known. -/
theorem isValue_pieceText
    (quotes : d.quoteEnd = d.quoteStart ∧ (d.quoteStart = '"' ∨ d.quoteStart = '\x60'))
    (typed : ∀ v ∈ s.vars, v.valueType ≠ .fragment) (kind : t.isPlaceholder = true)
    (spliced : s.spliceToken d t = .ok (s.pieceText d t)) :
    Token.IsValue d.backslashEscapes (s.pieceText d t) := by
  cases t with
  | placeholder name =>
    simp only [spliceToken] at spliced
    split at spliced
    · next v found =>
      exact ScriptVariable.isValue_render (fun _ => quotes)
        (typed v (List.mem_of_find?_eq_some found)) spliced
    · simp at spliced
  | _ => exact Bool.noConfusion kind

/-- **Values keep to their places** exactly if nothing at their edges takes in what follows
it.  Of a script without fragments that can be rendered, in a dialect whose identifiers
stand in double quotes or in backquotes, the tokens of the rendered text are those of the
script with the tokens of every value, taken on its own, in its place, if and only if no
token directly before a value or at the end of one takes in what the rendered text goes on
with. -/
theorem tokens_render_iff {r : Request} {sql : String}
    (quotes : d.quoteEnd = d.quoteStart ∧ (d.quoteStart = '"' ∨ d.quoteStart = '\x60'))
    (typed : ∀ v ∈ s.vars, v.valueType ≠ .fragment)
    (rendered : d.render s r .scriptOnly = .ok sql) :
    Token.tokens d.backslashEscapes sql.toList = (s.core d).flatMap (s.placed d) ↔
      s.isSeamless d (s.core d) = true := by
  rw [Dialect.render, Dialect.renderChars] at rendered
  cases spliced : s.splice d with
  | error e =>
    rw [spliced] at rendered
    exact absurd rendered (by simp [bind, Except.bind, Except.map])
  | ok source =>
    rw [spliced] at rendered
    obtain rfl : String.ofList source = sql := Except.ok.inj rendered
    obtain ⟨rfl, each⟩ := splice_eq spliced
    obtain ⟨dropped, whole⟩ := exists_append_upToLast Token.isSignificant (s.tokens d)
    have own : Token.tokens d.backslashEscapes
        ((upToLast Token.isSignificant (s.tokens d) ++ dropped).flatMap Token.text) =
          upToLast Token.isSignificant (s.tokens d) ++ dropped := by
      rw [whole, tokens, Token.flatMap_text_tokens]
    have values : ∀ t ∈ upToLast Token.isSignificant (s.tokens d), t.isPlaceholder = true →
        Token.IsValue d.backslashEscapes (s.pieceText d t) := by
      intro t ht kind
      have mem : t ∈ s.tokens d := whole ▸ List.mem_append_left dropped ht
      exact isValue_pieceText quotes typed kind (each t mem)
    -- The kept tokens without blanks in front are tokens of the script that stand one behind the
    -- other, so cutting their text gives them again.
    have core : Token.tokens d.backslashEscapes ((s.core d ++ dropped).flatMap Token.text) =
        s.core d ++ dropped := by
      rw [← List.takeWhile_append_dropWhile (p := Token.isBlank)
        (l := upToLast Token.isSignificant (s.tokens d)), List.append_assoc] at own
      exact Token.tokens_flatMap_of_append own
    rw [String.toList_ofList, trimStart_textOf own values]
    exact tokens_textOf_iff core fun t ht => values t ((List.dropWhile_sublist _).subset ht)

/-- The hypotheses are satisfiable: a string beside a quoted run keeps to its place as long
as something stands between them. -/
theorem tokens_render_iff_apart :
    let s := (QueryScript.ofText " SELECT 'a' || $s$ -- note").addVariable ⟨"s", .string, ["b"]⟩
    let d := Product.sqlite.dialect
    Token.tokens d.backslashEscapes "SELECT 'a' || 'b'".toList =
      (s.core d).flatMap (s.placed d) := by
  intro s d
  have rendered : d.render s (.ofPage .first) .scriptOnly = .ok "SELECT 'a' || 'b'" :=
    ok_of_toOption (by decide +kernel)
  have seamless : s.isSeamless d (s.core d) = true := by decide +kernel
  exact (tokens_render_iff ⟨rfl, .inl rfl⟩ (by decide) rendered).2 seamless

/-- A signed number after a minus sign starts a comment, which takes in the rest of its
line. -/
theorem signed_number_opens_comment :
    let s := (QueryScript.ofText "SELECT 5-$n$").addVariable ⟨"n", .numeric, ["-1"]⟩
    let d := Product.sqlite.dialect
    (d.quoteEnd = d.quoteStart ∧ d.quoteStart = '"') ∧
      (∀ v ∈ s.vars, v.valueType ≠ .fragment) ∧
      (d.render s (.ofPage .first) .scriptOnly).toOption = some "SELECT 5--1" ∧
      Token.tokens d.backslashEscapes "SELECT 5--1".toList ≠
        (s.core d).flatMap (s.placed d) := by
  decide +kernel

end QueryScript

end PagedQuery
