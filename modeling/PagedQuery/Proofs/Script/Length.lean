/-
# Lengths of tokens

The first token of a text can be told by its kind and its length in bytes (`Token.measure`), so
that it need not be copied.  The length is computed from positions.  A text that starts with `--`
has a comment up to the first line break; one that starts with `/*` has one up to four bytes
behind the place of `*/` in what follows the opening.  A quoted run ends behind the quote at which
a walk over the characters stops, a placeholder ends with its match, and anything else is its
first character.  A comment or a quoted run that is not closed ends with the text.

However the length is computed, it is that of the token which is cut off (`measure_eq`).  So it is
at least one byte and at most the whole text, and it splits no character (`isValid_measure`).  The
two sides are quite different programs, one over positions and one over characters; what connects
them is a statement about every position at which the walk may start (`quotedEnd_charPositions`,
`positionOf?_closing`).
-/

import PagedQuery.Proofs.Text.Bytes
import PagedQuery.Script.Token

namespace PagedQuery
namespace Token

open String (utf8Len)

/-- What a token is, without the text that is copied. -/
inductive Kind
  | comment
  | placeholder (name : List Char)
  | quoted
  | plain (c : Char)
deriving DecidableEq

/-- The kind of a token. -/
def kind : Token → Kind
  | comment _ => .comment
  | placeholder name => .placeholder name
  | quoted _ => .quoted
  | plain c => .plain c

/-- Where a quoted run ends in a text of a given size, from the characters behind its opening
quote.  The character behind an escape is passed over, and so is the second of two quotes. -/
def quotedEnd (quote : Char) (escapes : Bool) (size : Nat) : List (Nat × Char) → Nat
  | [] => size
  | (position, c) :: chars =>
    if escapes && c == '\\' then
      match chars with
      | [] => size
      | _ :: chars => quotedEnd quote escapes size chars
    else if c == quote then
      match chars with
      | [] => position + c.utf8Size
      | (_, d) :: more =>
        if d == quote then quotedEnd quote escapes size more else position + c.utf8Size
    else quotedEnd quote escapes size chars

/-- The kind of the first token of a text and its length in bytes.  The end of the token is looked
for in the text as it stands: a line break, the closing of a block, a quote that is not doubled. -/
def measure (escapes : Bool) (text : String) : Kind × Nat :=
  if ['-', '-'].isPrefixOf text.toList then
    (.comment, (Text.position? '\n' text).getD text.utf8ByteSize)
  else if ['/', '*'].isPrefixOf text.toList then
    let closing := Text.positionOf? ['*', '/'] 0 (text.toList.drop 2)
    (.comment, (closing.map (· + 4)).getD text.utf8ByteSize)
  else
    match text.toList with
    | [] => (.comment, 0)
    | c :: cs =>
      let behind := (Text.charPositions 0 text.toList).drop 1
      if c == '\'' then (.quoted, quotedEnd c escapes text.utf8ByteSize behind)
      else if c == '"' || c == '\x60' then (.quoted, quotedEnd c false text.utf8ByteSize behind)
      else if c == '$' then
        match placeholder? cs with
        | some (name, _) => (.placeholder name, utf8Len ('$' :: (name ++ ['$'])))
        | none => (.plain c, 1)
      else (.plain c, c.utf8Size)

/-! ### Where tokens end -/

/-- Two characters stand at the start of a text if the one is its first and the other follows. -/
theorem isPrefixOf_pair (a b c : Char) (cs : List Char) :
    [a, b].isPrefixOf (c :: cs) = (c == a && cs.head? == some b) := by
  cases cs <;> simp [List.isPrefixOf, Bool.beq_comm]

/-- The walk over the characters of a quoted run stops where the run ends. -/
theorem quotedEnd_charPositions (quote : Char) (escapes : Bool) (position : Nat)
    (cs : List Char) :
    quotedEnd quote escapes (position + utf8Len cs) (Text.charPositions position cs) =
      position + utf8Len (quotedRest quote escapes cs).1 := by
  -- By induction on the run.  The size of the text is that of what was passed over and of what
  -- is left, so the walk goes on from a later position in a text of the same size.
  have size := Text.add_utf8Len_cons
  fun_induction quotedRest quote escapes cs generalizing position with
  | case1 => rfl
  | case2 c escaped => simp [Text.charPositions, quotedEnd, escaped]
  | case3 c escaped d ds run rest eq ih =>
    rw [eq] at ih
    rw [Text.charPositions, Text.charPositions, quotedEnd, if_pos escaped]
    dsimp only
    rw [size, size, ih, ← size, ← size]
  | case4 c open_ closes => simp [Text.charPositions, quotedEnd, open_, closes]
  | case5 c open_ closes d ds again run rest eq ih =>
    rw [eq] at ih
    rw [Text.charPositions, Text.charPositions, quotedEnd, if_neg open_, if_pos closes]
    dsimp only
    rw [if_pos again, size, size, ih, ← size, ← size]
  | case6 c open_ closes d ds again =>
    rw [Text.charPositions, Text.charPositions, quotedEnd, if_neg open_, if_pos closes]
    dsimp only
    rw [if_neg again, size, String.utf8Len_nil, Nat.add_zero]
  | case7 c ds open_ closes run rest eq ih =>
    rw [eq] at ih
    rw [Text.charPositions, quotedEnd.eq_def]
    dsimp only
    rw [if_neg open_, if_neg closes, size, ih, ← size]

/-- A block comment ends behind the first place of its closing. -/
theorem positionOf?_closing (position : Nat) (cs : List Char) :
    ((Text.positionOf? ['*', '/'] position cs).map (· + 2)).getD (position + utf8Len cs) =
      position + utf8Len (blockRest cs).1 := by
  fun_induction blockRest cs generalizing position with
  | case1 => rfl
  | case2 c => simp [Text.positionOf?, List.isPrefixOf]
  -- The closing is here, and the comment ends behind its two characters.
  | case3 c d cs closes =>
    have found : ['*', '/'].isPrefixOf (c :: d :: cs) = true := by
      rw [isPrefixOf_pair]
      simpa using closes
    rw [Bool.and_eq_true, beq_iff_eq, beq_iff_eq] at closes
    obtain ⟨rfl, rfl⟩ := closes
    rw [Text.positionOf?, if_pos found]
    rfl
  -- It is further on, so the position moves on by one character.
  | case4 c d cs open_ run rest eq ih =>
    have missed : ['*', '/'].isPrefixOf (c :: d :: cs) = false := by
      rw [isPrefixOf_pair]
      simpa using open_
    rw [eq] at ih
    rw [Text.positionOf?, if_neg (Bool.eq_false_iff.1 missed),
      Text.add_utf8Len_cons position c (d :: cs), Text.add_utf8Len_cons position c run]
    exact ih (position + c.utf8Size)

/-! ### The length of the first token -/

variable {text : String} {c : Char} {cs : List Char}

/-- A block comment is as long as its opening and what it takes of the rest. -/
theorem getD_positionOf?_closing (size : Nat) (cs : List Char) (whole : size = utf8Len cs + 2) :
    ((Text.positionOf? ['*', '/'] 0 cs).map (· + 4)).getD size =
      utf8Len ('/' :: '*' :: (blockRest cs).1) := by
  have closing := positionOf?_closing 0 cs
  have opening : utf8Len ('/' :: '*' :: (blockRest cs).1) = utf8Len (blockRest cs).1 + 2 := rfl
  cases found : Text.positionOf? ['*', '/'] 0 cs with
  | none =>
    rw [found] at closing
    simp only [Option.map_none, Option.getD_none] at closing ⊢
    omega
  | some position =>
    rw [found] at closing
    simp only [Option.map_some, Option.getD_some] at closing ⊢
    omega

/-- **The first token has the kind and the length that are measured.**  The length is that of the
token's text in bytes, so cutting a script there cuts it at a character. -/
theorem measure_eq (escapes : Bool) (whole : text.toList = c :: cs) :
    measure escapes text = ((next escapes c cs).1.kind, utf8Len (next escapes c cs).1.text) := by
  have size : text.utf8ByteSize = c.utf8Size + utf8Len cs := by
    rw [← String.utf8Len_toList, whole, String.utf8Len_cons, Nat.add_comm]
  have run (escapes : Bool) : quotedEnd c escapes text.utf8ByteSize
      ((Text.charPositions 0 (c :: cs)).drop 1) = utf8Len (c :: (quotedRest c escapes cs).1) := by
    rw [Text.charPositions, List.drop_one, List.tail_cons, Nat.zero_add, size,
      quotedEnd_charPositions, String.utf8Len_cons, Nat.add_comm]
  simp only [measure, next]
  rw [whole, isPrefixOf_pair, isPrefixOf_pair]
  -- Case by case as the two are defined.
  split
  · next line =>
    rw [Bool.and_eq_true, beq_iff_eq] at line
    obtain ⟨rfl, -⟩ := line
    rw [Text.getD_position?, whole]
    rfl
  split
  · next block =>
    rw [Bool.and_eq_true, beq_iff_eq, beq_iff_eq] at block
    obtain ⟨rfl, second⟩ := block
    obtain ⟨ds, rfl⟩ := List.head?_eq_some_iff.1 second
    rw [List.drop_succ_cons, List.drop_succ_cons, List.drop_zero,
      getD_positionOf?_closing text.utf8ByteSize ds]
    · rfl
    · rw [← String.utf8Len_toList, whole]
      rfl
  dsimp only
  split
  · rw [run]
    rfl
  split
  · rw [run]
    rfl
  split
  · next dollar =>
    obtain rfl := beq_iff_eq.1 dollar
    cases placeholder? cs <;> rfl
  · simp [kind, Token.text]

/-- **A token has a length that can be cut off**: at least one byte, at most all of them, and no
part of a character. -/
theorem isValid_measure (escapes : Bool) (nonempty : text ≠ "") :
    0 < (measure escapes text).2 ∧ (measure escapes text).2 ≤ text.utf8ByteSize ∧
      (⟨(measure escapes text).2⟩ : String.Pos.Raw).IsValid text := by
  obtain ⟨c, cs, whole⟩ := Text.exists_toList_eq_cons nonempty
  have valid := Text.isValid_utf8Len (whole.trans (next_append escapes c cs).symm)
  rw [measure_eq escapes whole]
  refine ⟨Nat.pos_of_ne_zero ?_, valid.le_utf8ByteSize, valid⟩
  exact mt String.utf8Len_eq_zero.1 (text_next_ne_nil escapes c cs)

/-- The `*` of the opening closes no comment, and a backslash at the end escapes nothing. -/
example : measure false "/*/" = (.comment, 3) ∧ measure true "'é\\" = (.quoted, 4) ∧
    measure true "é'" = (.plain 'é', 2) := by
  decide +kernel

end Token
end PagedQuery
