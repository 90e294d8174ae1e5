/-
# The loop over a script

A script is spliced in a loop over what is left of it.  A round measures the first token, writes
it or the text of its variable behind what is written so far, and cuts it off.  It also keeps the
length up to which what is written is significant.  A placeholder or a quoted run makes all of it
significant, and so does any other character that is neither a blank nor a semicolon; a comment, a
blank or a semicolon leaves that length as it was.  When nothing is left, what is written is cut
there.

A cut at a position that does not fit the text is not made, and there is no next state then
(`none`).  That this never happens is part of what is shown: a round comes to the next state, or
to the failure of a variable (`round_eq`), and leaves less than it found; so the loop ends on
every script, with the text of the script or with that failure (`splice_progress`).

The invariant of the loop is `Splicing.Holds`: what is written is the texts of the tokens so far,
and the significant length is that of the texts up to the last significant token.
-/

import PagedQuery.Proofs.Script.Length
import PagedQuery.Proofs.Script.Wrap

namespace PagedQuery
namespace QueryScript

open String (utf8Len)

/-- Where the loop stands.  How much of what is written is significant is kept as a number of bytes,
to be cut there at the end. -/
structure Splicing where
  /-- What is written so far, with the texts of variables in their places. -/
  written : String
  /-- How many bytes of what is written are significant. -/
  significant : Nat
  /-- What is left of the script. -/
  rest : String

namespace Splicing

/-- The loop at its start. -/
def start (s : QueryScript) : Splicing :=
  ⟨"", 0, s.script⟩

/-- More is written, and all that is written is significant then or what was before. -/
def write (p : Splicing) (text : String) (isSignificant : Bool) : Splicing :=
  let written := p.written ++ text
  ⟨written, if isSignificant then written.utf8ByteSize else p.significant, p.rest⟩

/-- A token of some length is cut off what is left.  There is no result where the length is not one
of whole characters. -/
def cutOff (p : Splicing) (length : Nat) : Option Splicing :=
  (Text.slice? p.rest ⟨length, p.rest.utf8ByteSize⟩).map fun rest => { p with rest }

/-- One round of the loop.  No result means that a cut failed; a failure means that a variable was
refused. -/
def round (s : QueryScript) (d : Dialect) (p : Splicing) : Option (Except Failure Splicing) :=
  let (kind, length) := Token.measure d.backslashEscapes p.rest
  match kind with
  | .comment =>
    (Text.slice? p.rest ⟨0, length⟩).bind fun piece =>
      ((p.write piece false).cutOff length).map .ok
  | .placeholder name =>
    match s.spliceToken d (.placeholder name) with
    | .ok text => ((p.write (String.ofList text) true).cutOff length).map .ok
    | .error e => some (.error e)
  | .quoted =>
    (Text.slice? p.rest ⟨0, length⟩).bind fun piece =>
      ((p.write piece true).cutOff length).map .ok
  | .plain c =>
    ((p.write (String.ofList [c]) (c != ';' && !Text.isBlank c)).cutOff length).map .ok

/-- What comes of the loop when nothing is left: what is significant of the text, without the blanks
in front.  A script of which nothing remains is refused. -/
def finish (p : Splicing) : Option (Except Failure (List Char)) :=
  (Text.slice? p.written ⟨0, p.significant⟩).map fun kept =>
    let sql := Text.trimStart kept.toList
    if sql.isEmpty then .error (.render "script is empty") else .ok sql

/-- Whether the loop goes from a state to its end, with the pieces that are cut off on the way.  A
derivation is a finite run, so having one is having an end. -/
inductive Ends (s : QueryScript) (d : Dialect) :
    Splicing → List String → Except Failure Splicing → Prop
  | done {p : Splicing} (nothing : p.rest = "") : Ends s d p [] (.ok p)
  | refused {p : Splicing} {e : Failure} (more : p.rest ≠ "")
      (failed : p.round s d = some (.error e)) : Ends s d p [] (.error e)
  | goesOn {p q : Splicing} {piece : String} {pieces : List String}
      {ended : Except Failure Splicing} (more : p.rest ≠ "")
      (cut : Text.slice? p.rest ⟨0, (Token.measure d.backslashEscapes p.rest).2⟩ = some piece)
      (next : p.round s d = some (.ok q)) (later : Ends s d q pieces ended) :
      Ends s d p (piece :: pieces) ended

/-! ### One round -/

/-- The loop behind a token that has become some text. -/
def behind (p : Splicing) (t : Token) (text left : List Char) : Splicing :=
  { p.write (String.ofList text) t.isSignificant with rest := String.ofList left }

variable {s : QueryScript} {d : Dialect} {p : Splicing} {t : Token} {text left : List Char}

/-- Behind a token is left what follows it. -/
@[simp] theorem toList_rest_behind : (p.behind t text left).rest.toList = left :=
  String.toList_ofList

/-- A round in which a token is measured writes what it becomes and leaves what is behind it. -/
theorem round_of_measure (measured : Token.measure d.backslashEscapes p.rest =
      (t.kind, utf8Len t.text)) (split : p.rest.toList = t.text ++ left) :
    p.round s d = some ((s.spliceToken d t).map fun text => p.behind t text left) := by
  have piece : Text.slice? p.rest ⟨0, utf8Len t.text⟩ = some (String.ofList t.text) :=
    Text.slice?_start split
  have cut (text : String) (isSignificant : Bool) : (p.write text isSignificant).cutOff
      (utf8Len t.text) = some { p.write text isSignificant with rest := String.ofList left } :=
    congrArg (Option.map _) (Text.slice?_end split)
  rw [round, measured]
  cases t with
  | comment text => simp only [Token.kind, piece, cut]; rfl
  | quoted text => simp only [Token.kind, piece, cut]; rfl
  | plain c => simp only [Token.kind, cut]; rfl
  | placeholder name =>
    simp only [Token.kind, cut]
    cases s.spliceToken d (.placeholder name) <;> rfl

/-- **A round takes the first token off**, unless its variable is refused.  So the loop goes through
the tokens, and ends with them. -/
theorem round_eq {c : Char} {cs : List Char} (whole : p.rest.toList = c :: cs) :
    let t := (Token.next d.backslashEscapes c cs).1
    let left := (Token.next d.backslashEscapes c cs).2
    Text.slice? p.rest ⟨0, (Token.measure d.backslashEscapes p.rest).2⟩ =
        some (String.ofList t.text) ∧
      p.round s d = some ((s.spliceToken d t).map fun text => p.behind t text left) := by
  intro t left
  have split : p.rest.toList = t.text ++ left :=
    whole.trans (Token.next_append d.backslashEscapes c cs).symm
  have measured := Token.measure_eq d.backslashEscapes whole
  refine ⟨?_, round_of_measure measured split⟩
  rw [measured]
  exact Text.slice?_start split

/-- A round after which the loop goes on has written what its token becomes. -/
theorem exists_of_round {q : Splicing} (more : p.rest ≠ "")
    (next : p.round s d = some (.ok q)) :
    ∃ c cs text, p.rest.toList = c :: cs ∧
      s.spliceToken d (Token.next d.backslashEscapes c cs).1 = .ok text ∧
      q = p.behind (Token.next d.backslashEscapes c cs).1 text
        (Token.next d.backslashEscapes c cs).2 := by
  obtain ⟨c, cs, whole⟩ := Text.exists_toList_eq_cons more
  have first := Option.some.inj ((round_eq whole).2.symm.trans next)
  obtain ⟨text, spliced, rfl⟩ := exceptMap_eq_ok_iff.1 first
  exact ⟨c, cs, text, whole, spliced, rfl⟩

/-! ### What is written -/

/-- Whether pieces are what is written: their texts one after another, of which those up to the
last significant piece are significant. -/
structure Holds (p : Splicing) (pieces : List (Token × List Char)) : Prop where
  written : p.written = String.ofList (pieces.flatMap (·.2))
  significant : p.significant =
    utf8Len ((upToLast (fun piece => piece.1.isSignificant) pieces).flatMap (·.2))

/-- Before the first round nothing is written, and nothing is significant. -/
theorem holds_start (s : QueryScript) : (start s).Holds [] :=
  ⟨rfl, rfl⟩

/-- One more member is kept with all before it, or changes nothing. -/
theorem upToLast_concat {α : Type} (isKept : α → Bool) (xs : List α) (x : α) :
    upToLast isKept (xs ++ [x]) = if isKept x then xs ++ [x] else upToLast isKept xs := by
  rw [upToLast, List.reverse_concat, List.dropWhile_cons]
  cases isKept x <;> simp [upToLast]

/-- One more piece is written. -/
theorem Holds.behind {pieces : List (Token × List Char)} (h : p.Holds pieces) (t : Token)
    (text left : List Char) : (p.behind t text left).Holds (pieces ++ [(t, text)]) := by
  have written : p.written ++ String.ofList text =
      String.ofList ((pieces ++ [(t, text)]).flatMap (·.2)) := by
    rw [h.written, ← String.ofList_append, List.flatMap_append, List.flatMap_singleton]
  refine ⟨written, ?_⟩
  rw [upToLast_concat]
  dsimp only [Splicing.behind, write]
  split
  · rw [written, String.utf8ByteSize_ofList]
  · exact h.significant

/-- **The cut at the end fits**: what is left of the pieces is the text of the script.  The number
of significant bytes is that of the pieces up to the last significant one. -/
theorem Holds.finish_eq {pieces : List (Token × List Char)} (h : p.Holds pieces)
    (whole : s.splicePieces d = .ok pieces) : p.finish = some (s.splice d) := by
  obtain ⟨dropped, split⟩ :=
    exists_append_upToLast (fun piece : Token × List Char => piece.1.isSignificant) pieces
  have parts : p.written.toList =
      (upToLast (fun piece => piece.1.isSignificant) pieces).flatMap (·.2) ++
        dropped.flatMap (·.2) := by
    rw [h.written, String.toList_ofList, ← List.flatMap_append, split]
  rw [finish, h.significant, Text.slice?_start parts, Option.map_some, String.toList_ofList,
    splice, whole]
  rfl

/-! ### The whole loop -/

/-- The loop ends from everywhere: a round leaves less than it finds. -/
theorem exists_ends (s : QueryScript) (d : Dialect) (p : Splicing) :
    ∃ pieces ended, Ends s d p pieces ended := by
  induction whole : p.rest.toList using Token.tokens.induct d.backslashEscapes generalizing p with
  | case1 => exact ⟨[], .ok p, .done (String.toList_eq_nil_iff.1 whole)⟩
  | case2 c cs ih =>
    have more : p.rest ≠ "" := fun none => by simp [none] at whole
    obtain ⟨cut, next⟩ := round_eq (s := s) whole
    cases spliced : s.spliceToken d (Token.next d.backslashEscapes c cs).1 with
    | error e =>
      rw [spliced] at next
      exact ⟨[], .error e, .refused more next⟩
    | ok text =>
      rw [spliced] at next
      obtain ⟨pieces, ended, later⟩ := ih _ toList_rest_behind
      exact ⟨_ :: pieces, ended, .goesOn more cut next later⟩

variable {pieces : List String} {ended : Except Failure Splicing}

/-- What is cut off is the start of the script, and all of it if no variable is refused. -/
theorem Ends.pieces_prefix (h : Ends s d p pieces ended) :
    pieces.flatMap String.toList <+: p.rest.toList ∧
      ∀ q, ended = .ok q → pieces.flatMap String.toList = p.rest.toList := by
  induction h with
  | done nothing => simp [nothing]
  | refused => exact ⟨List.nil_prefix, by simp⟩
  | @goesOn p q piece pieces ended more cut next later ih =>
    obtain ⟨c, cs, text, whole, -, rfl⟩ := exists_of_round more next
    obtain rfl := Option.some.inj (cut.symm.trans (round_eq (s := s) whole).1)
    have split := whole.trans (Token.next_append d.backslashEscapes c cs).symm
    rw [toList_rest_behind] at ih
    rw [List.flatMap_cons, String.toList_ofList, split]
    exact ⟨(List.prefix_append_right_inj _).2 ih.1, fun q well => congrArg _ (ih.2 q well)⟩

/-- The loop ends with the pieces of the script, or with the failure of one of them. -/
theorem Ends.holds (h : Ends s d p pieces ended) {before : List (Token × List Char)}
    (holds : p.Holds before) :
    let spliced := (Token.tokens d.backslashEscapes p.rest.toList).mapM fun t =>
      (s.spliceToken d t).map fun text => (t, text)
    (∀ q, ended = .ok q → ∃ after, spliced = .ok after ∧ q.Holds (before ++ after)) ∧
      ∀ e, ended = .error e → spliced = .error e := by
  -- By induction on the run; every round adds its piece to those that are written.
  induction h generalizing before with
  | @done p nothing =>
    rw [nothing, String.toList_empty, Token.tokens]
    refine ⟨fun q same => ⟨[], rfl, ?_⟩, by simp⟩
    rw [List.append_nil, ← Except.ok.inj same]
    exact holds
  | @refused p e more failed =>
    obtain ⟨c, cs, whole⟩ := Text.exists_toList_eq_cons more
    have first := Option.some.inj ((round_eq whole).2.symm.trans failed)
    rw [whole, Token.tokens, List.mapM_cons, exceptMap_eq_error_iff.1 first]
    refine ⟨by simp, fun e' same => ?_⟩
    obtain rfl := Except.error.inj same
    rfl
  | @goesOn p q piece pieces ended more cut next later ih =>
    obtain ⟨c, cs, text, whole, spliced, rfl⟩ := exists_of_round more next
    obtain ⟨well, refused⟩ := ih (holds.behind _ text _)
    rw [toList_rest_behind] at well refused
    rw [whole, Token.tokens, List.mapM_cons, spliced]
    refine ⟨fun q last => ?_, fun e last => ?_⟩
    · obtain ⟨after, others, holds⟩ := well q last
      rw [others]
      exact ⟨_, rfl, by rwa [List.append_assoc] at holds⟩
    · rw [refused e last]
      rfl

end Splicing

/-- **The loop over a script makes progress and loses nothing.**  In every text that is not empty
the first token is measured with at least one byte, at most all of them, and no part of a
character.  So the loop ends on every script, each of its cuts fits, and the pieces that are cut
off are the start of the script.  If it comes to the end of the script they are all of it, and
what is written and significant is the text of the script; otherwise the script is refused with
the failure of the variable at which it stops. -/
theorem splice_progress (s : QueryScript) (d : Dialect) :
    (∀ text, text ≠ "" → 0 < (Token.measure d.backslashEscapes text).2 ∧
      (Token.measure d.backslashEscapes text).2 ≤ text.utf8ByteSize ∧
      (⟨(Token.measure d.backslashEscapes text).2⟩ : String.Pos.Raw).IsValid text) ∧
    ∃ pieces ended, Splicing.Ends s d (.start s) pieces ended ∧
      pieces.flatMap String.toList <+: s.script.toList ∧
      (∀ p, ended = .ok p →
        pieces.flatMap String.toList = s.script.toList ∧ p.finish = some (s.splice d)) ∧
      ∀ e, ended = .error e → s.splice d = .error e := by
  obtain ⟨pieces, ended, ends⟩ := Splicing.exists_ends s d (.start s)
  obtain ⟨start, all⟩ := ends.pieces_prefix
  obtain ⟨well, refused⟩ := ends.holds (Splicing.holds_start s)
  refine ⟨fun text => Token.isValid_measure _, pieces, ended, ends, start,
    fun p last => ⟨all p last, ?_⟩, fun e last => ?_⟩
  · obtain ⟨after, whole, holds⟩ := well p last
    exact holds.finish_eq whole
  · exact exceptBind_eq_error_iff.2 (.inl (refused e last))

end QueryScript
end PagedQuery
