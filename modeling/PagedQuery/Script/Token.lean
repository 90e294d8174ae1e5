/-
# Tokens of a script

A script is cut into pieces just far enough to know where a placeholder is one.  A token is a
comment, `--` up to the line break or `/*` up to `*/`; a quoted run in single quotes, double
quotes or backquotes; a placeholder `$name$`, whose name is an ASCII identifier; or any other
single character.

Inside a quoted run a doubled quote does not end it; in single quotes neither does a quote after a
backslash, if the dialect has backslash escapes.  Comments and quoted runs that are not closed
extend to the end.

Every character of a script lies in exactly one token (`flatMap_text_tokens`).  The lemmas about
what is read and what is left, one for each reader, say so for a single token; that a token is
never empty makes `tokens` end.
-/

namespace PagedQuery

/-- A piece of a script. -/
inductive Token
  | comment (text : List Char)
  | placeholder (name : List Char)
  | quoted (text : List Char)
  /-- A single character that starts none of the others. -/
  | plain (c : Char)
deriving DecidableEq

namespace Token

/-- The characters of the script a token was cut from. -/
def text : Token → List Char
  | comment text => text
  | placeholder name => '$' :: (name ++ ['$'])
  | quoted text => text
  | plain c => [c]

/-- Whether a character can start the name of a placeholder. -/
def isNameStart (c : Char) : Bool :=
  c.isAlpha || c == '_'

/-- Whether a character can continue the name of a placeholder. -/
def isNameRest (c : Char) : Bool :=
  c.isAlphanum || c == '_'

/-- The rest of a quoted run after its opening quote, the closing quote included, and
what follows it. -/
def quotedRest (quote : Char) (escapes : Bool) : List Char → List Char × List Char
  | [] => ([], [])
  | c :: cs =>
    if escapes && c == '\\' then
      match cs with
      | [] => ([c], [])
      | d :: ds =>
        let (run, rest) := quotedRest quote escapes ds
        (c :: d :: run, rest)
    else if c == quote then
      match cs with
      | [] => ([c], [])
      | d :: ds =>
        if d == quote then
          let (run, rest) := quotedRest quote escapes ds
          (c :: d :: run, rest)
        else ([c], d :: ds)
    else
      let (run, rest) := quotedRest quote escapes cs
      (c :: run, rest)

/-- The rest of a block comment after its opening, the closing included, and what
follows it. -/
def blockRest : List Char → List Char × List Char
  | [] => ([], [])
  | [c] => ([c], [])
  | c :: d :: cs =>
    if c == '*' && d == '/' then ([c, d], cs)
    else
      let (run, rest) := blockRest (d :: cs)
      (c :: run, rest)

/-- The name of a placeholder after its opening `$` and what follows its closing one,
if there is a placeholder. -/
def placeholder? (cs : List Char) : Option (List Char × List Char) :=
  match cs.takeWhile isNameRest, cs.dropWhile isNameRest with
  | first :: others, '$' :: rest =>
    if isNameStart first then some (first :: others, rest) else none
  | _, _ => none

/-- The first token of a text that starts with `c`, and what follows it.  Single
quotes know escapes if `escapes` is set. -/
def next (escapes : Bool) (c : Char) (cs : List Char) : Token × List Char :=
  if c == '-' && cs.head? == some '-' then
    (comment (c :: cs.takeWhile (· != '\n')), cs.dropWhile (· != '\n'))
  else if c == '/' && cs.head? == some '*' then
    let (run, rest) := blockRest cs.tail
    (comment (c :: '*' :: run), rest)
  else if c == '\'' then
    let (run, rest) := quotedRest c escapes cs
    (quoted (c :: run), rest)
  else if c == '"' || c == '\x60' then
    let (run, rest) := quotedRest c false cs
    (quoted (c :: run), rest)
  else if c == '$' then
    match placeholder? cs with
    | some (name, rest) => (placeholder name, rest)
    | none => (plain c, cs)
  else (plain c, cs)

/-! ### No character is lost -/

/-- A quoted run and what follows it make up what was read. -/
theorem quotedRest_append (quote : Char) (escapes : Bool) (cs : List Char) :
    (quotedRest quote escapes cs).1 ++ (quotedRest quote escapes cs).2 = cs := by
  fun_induction quotedRest quote escapes cs <;> simp_all

/-- A block comment and what follows it make up what was read. -/
theorem blockRest_append (cs : List Char) : (blockRest cs).1 ++ (blockRest cs).2 = cs := by
  fun_induction blockRest cs <;> simp_all

/-- A placeholder's name, the sign that closes it and what follows make up what was read. -/
theorem placeholder?_append {cs name rest : List Char}
    (h : placeholder? cs = some (name, rest)) : name ++ '$' :: rest = cs := by
  unfold placeholder? at h
  split at h
  · next first others after named closed =>
    split at h
    · obtain ⟨rfl, rfl⟩ := Prod.mk.inj (Option.some.inj h)
      rw [← named, ← closed, List.takeWhile_append_dropWhile]
    · simp at h
  · simp at h

/-- The first token and what follows it make up the text. -/
theorem next_append (escapes : Bool) (c : Char) (cs : List Char) :
    (next escapes c cs).1.text ++ (next escapes c cs).2 = c :: cs := by
  unfold next
  split
  · simp [text, List.takeWhile_append_dropWhile]
  split
  · next h =>
    have star : cs.head? = some '*' := by
      rw [Bool.and_eq_true, beq_iff_eq, beq_iff_eq] at h
      exact h.2
    obtain ⟨d, ds, rfl⟩ : ∃ d ds, cs = d :: ds := by
      cases cs with
      | nil => simp at star
      | cons d ds => exact ⟨d, ds, rfl⟩
    obtain rfl : d = '*' := by simpa using star
    simp [text, blockRest_append]
  split
  · simp [text, quotedRest_append]
  split
  · simp [text, quotedRest_append]
  split
  · next dollar =>
    obtain rfl : c = '$' := by simpa using dollar
    split
    · next name rest found => simp [text, ← placeholder?_append found]
    · simp [text]
  · simp [text]

/-- A token has at least the character it starts with. -/
theorem text_next_ne_nil (escapes : Bool) (c : Char) (cs : List Char) :
    (next escapes c cs).1.text ≠ [] := by
  unfold next
  repeat' split
  all_goals simp [text]

/-- What follows the first token is shorter than the text. -/
theorem length_next_lt (escapes : Bool) (c : Char) (cs : List Char) :
    (next escapes c cs).2.length < (c :: cs).length := by
  have whole := congrArg List.length (next_append escapes c cs)
  have first := List.length_pos_iff.2 (text_next_ne_nil escapes c cs)
  rw [List.length_append] at whole
  omega

/-- The tokens of a text, in order. -/
def tokens (escapes : Bool) : List Char → List Token
  | [] => []
  | c :: cs => (next escapes c cs).1 :: tokens escapes (next escapes c cs).2
termination_by cs => cs.length
decreasing_by exact length_next_lt escapes c cs

/-- The tokens of a text, written one after another, are the text. -/
theorem flatMap_text_tokens (escapes : Bool) (cs : List Char) :
    (tokens escapes cs).flatMap text = cs := by
  fun_induction tokens escapes cs with
  | case1 => rfl
  | case2 c cs ih => rw [List.flatMap_cons, ih, next_append]

end Token

end PagedQuery
