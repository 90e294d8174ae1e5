/-
# Changing the case of a text

Both mappings are the full ones of Unicode: a letter may become several, `ß` in
upper case is `SS`.  Lowering a whole text has one rule that looks at the
neighbours, the capital sigma: at the end of a word it becomes `ς` and elsewhere
`σ`.  Lowering character by character has no such rule.
-/

import PagedQuery.Text.CaseTable
import PagedQuery.Text.Ranges

namespace PagedQuery
namespace Text

/-- The characters a letter becomes under a table of runs and one of sequences; a
character in neither stays as it is. -/
def mapChar (runs : List CaseRun) (sequences : List (Nat × List Nat)) (c : Char) : List Char :=
  match sequences.lookup c.toNat with
  | some codes => codes.map Char.ofNat
  | none => [(runs.findSome? (·.image? c.toNat)).getD c]

/-- The upper case of one character. -/
def upperChar (c : Char) : List Char :=
  if c.toNat < 0x80 then [c.toUpper] else mapChar upperRuns upperSequences c

/-- The lower case of one character, whatever stands beside it. -/
def lowerChar (c : Char) : List Char :=
  if c.toNat < 0x80 then [c.toLower] else mapChar lowerRuns lowerSequences c

/-- A text in upper case. -/
def upper (cs : List Char) : List Char :=
  cs.flatMap upperChar

/-- Whether the first character that is not case-ignorable has a case. -/
def startsCased (cs : List Char) : Bool :=
  match cs.dropWhile fun c => inRanges caseIgnorableRanges c.toNat with
  | [] => false
  | c :: _ => inRanges casedRanges c.toNat

/-- The lower case of a character that has `before` on its left, nearest first,
and `after` on its right. -/
def lowerCharBetween (before : List Char) (c : Char) (after : List Char) : List Char :=
  if c = 'Σ' then
    if startsCased before && !startsCased after then ['ς'] else ['σ']
  else
    lowerChar c

/-- The lower case of a text that has `before` on its left, nearest first. -/
def lowerAfter (before : List Char) : List Char → List Char
  | [] => []
  | c :: cs => lowerCharBetween before c cs ++ lowerAfter (c :: before) cs

/-- A text in lower case, with the word-final sigma. -/
def lower (cs : List Char) : List Char :=
  lowerAfter [] cs

/-- An ASCII text in lower case has every letter lowered by itself. -/
theorem lowerAfter_ascii {cs : List Char} (h : ∀ c ∈ cs, c.toNat < 0x80) (before : List Char) :
    lowerAfter before cs = cs.map Char.toLower := by
  induction cs generalizing before with
  | nil => rfl
  | cons c cs ih =>
    have ascii : c.toNat < 0x80 := h c (List.mem_cons_self ..)
    have other : c ≠ 'Σ' := by rintro rfl; exact absurd ascii (by decide)
    rw [lowerAfter, ih fun d hd => h d (List.mem_cons_of_mem _ hd)]
    simp [lowerCharBetween, other, lowerChar, ascii]

end Text
end PagedQuery
