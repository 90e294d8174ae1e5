/-
# Splicing variables into a script

Every placeholder is replaced by the SQL text of its variable; what stands in
quotes and comments is copied.  The result is cut so that it can stand inside
parentheses: what follows the last significant token is dropped, and so are the
blanks before the first one.  Comments, blanks and semicolons are not
significant; a placeholder is, even where its text is empty.
-/

import PagedQuery.Literal
import PagedQuery.Script.Token

namespace PagedQuery

/-- Whether a token keeps its place at the end of a script. -/
def Token.isSignificant : Token → Bool
  | comment _ => false
  | placeholder _ => true
  | quoted _ => true
  | plain c => c != ';' && !Text.isBlank c

/-- The part of a list up to the last member of a class. -/
def upToLast {α : Type} (isKept : α → Bool) (xs : List α) : List α :=
  (xs.reverse.dropWhile fun x => !isKept x).reverse

namespace QueryScript

/-- The tokens of a script. -/
def tokens (s : QueryScript) (d : Dialect) : List Token :=
  Token.tokens d.backslashEscapes s.script.toList

/-- What a token becomes: a placeholder the text of its variable, any other token its
own text. -/
def spliceToken (s : QueryScript) (d : Dialect) (t : Token) : Except Failure (List Char) :=
  match t with
  | .placeholder name =>
    match s.findVariable? (String.ofList name) with
    | some v => v.render d
    | none =>
      .error (.render ("script references undefined variable '" ++ String.ofList name ++ "'"))
  | other => .ok other.text

/-- The pieces of the spliced script, each with the token it stands for. -/
def splicePieces (s : QueryScript) (d : Dialect) : Except Failure (List (Token × List Char)) :=
  (s.tokens d).mapM fun t => (s.spliceToken d t).map fun text => (t, text)

/-- The SQL text of a script. -/
def splice (s : QueryScript) (d : Dialect) : Except Failure (List Char) := do
  let pieces ← s.splicePieces d
  let kept := upToLast (fun piece => piece.1.isSignificant) pieces
  let sql := Text.trimStart (kept.flatMap (·.2))
  if sql.isEmpty then .error (.render "script is empty") else .ok sql

end QueryScript

end PagedQuery
