/-
# Cuts in type names

A native name is read with two cuts, each made at byte positions that were found in some form of
the name.  The first drops the first argument of the trimmed name in upper case, from its first
`(` to behind the first `)` that follows, or to the end.  The second takes the wrapped name out of
the name as it is written, from behind its first `(` to the last byte of the name without the
blanks at its end.

A cut fails if it leaves the text or falls inside a character.  The first one is made in the text
in which its ends were found, and the `)` is sought behind the `(` only.  The second one takes its
end from a text that the name starts with, and that text ends with a `)` which is behind the first
`(`.  So both fit, whatever the name is: `argumentRange` and `innerRange?` are the ranges as they
are computed, `Maps` says that all steps of reading a name make their cuts, and what is read with
them is the type of the name (`maps_ofNative`).
-/

import PagedQuery.Proofs.NativeType.Decoration
import PagedQuery.Proofs.Text.Bytes

namespace PagedQuery
namespace NativeType

open String (utf8Len)

/-! ### The cuts -/

/-- The range of the first argument of a name, from where it is opened and the text in which its
end is sought. -/
def argumentRange (name : String) (opened : Nat) (sought : String) : ByteRange :=
  ⟨opened, ((Text.position? ')' sought).map fun closed => opened + closed + 1).getD
    name.utf8ByteSize⟩

/-- A name without its first argument, if that can be cut out. -/
def eraseArgument? (name : String) : Option String :=
  match Text.position? '(' name with
  | none => some name
  | some opened =>
    (Text.slice? name ⟨opened, name.utf8ByteSize⟩).bind fun sought =>
      Text.erase? name (argumentRange name opened sought)

/-- The text of a name in which its first argument is sought. -/
def folded (native : String) : String :=
  String.ofList (Text.upper (Text.trim native.toList))

/-- The normal form of a name, if its argument can be cut out. -/
def normal? (native : String) : Option (List Char) :=
  (eraseArgument? (folded native)).map fun name =>
    Text.joinWith " " ((Text.words name.toList).filter fun part =>
      !qualifiers.contains (String.ofList part))

/-- The text of a name in which the last parenthesis is sought. -/
def body (native : String) : String :=
  String.ofList (Text.trimEnd native.toList)

/-- The range of a name in which a wrapped one stands.  It ends before the last byte of the body,
which is the parenthesis. -/
def innerRange? (native : String) : Option ByteRange :=
  match Text.position? '(' native with
  | none => none
  | some opened =>
    if (body native).toList.getLast? = some ')' then
      some ⟨opened + 1, (body native).utf8ByteSize - 1⟩
    else none

/-- What reading a name comes to: its type, or a name that is read in its place.  With a bound on
the length of the second this is what makes the reading end. -/
inductive Step
  /-- The name is listed, or nothing is left to be read. -/
  | found (t : ValueType)
  /-- The name wraps this one. -/
  | unwrapped (inner : String)
deriving DecidableEq

/-- One step of reading a name, if its cuts can be made.  There is no result where a cut would fail,
so that a proof of a result is a proof that none does. -/
def step? (native : String) : Option Step :=
  (normal? native).bind fun normal =>
    match lookup? normal with
    | some t => some (.found t)
    | none =>
      match innerRange? native with
      | none => some (.found unlisted)
      | some r =>
        (Text.slice? native r).map fun inner =>
          if !inner.toList.contains ',' && !(Text.trim inner.toList).all Char.isDigit then
            .unwrapped inner
          else .found unlisted

/-- Whether reading a name ends with a type, each name that is read being shorter than the one
before it. -/
inductive Maps : String → ValueType → Prop
  | found {native : String} {t : ValueType} (here : step? native = some (.found t)) :
      Maps native t
  | unwrapped {native inner : String} {t : ValueType}
      (here : step? native = some (.unwrapped inner))
      (shorter : inner.utf8ByteSize < native.utf8ByteSize) (later : Maps inner t) :
      Maps native t

/-! ### The first argument -/

/-- **The first argument lies in its range.**  It is found in what follows the parenthesis that
opens it, and it can be cut out. -/
theorem exists_argument {name : String} {opened : Nat}
    (opens : Text.position? '(' name = some opened) :
    ∃ sought before part after, name.toList = before ++ part ++ after ∧
      Text.slice? name ⟨opened, name.utf8ByteSize⟩ = some sought ∧
      argumentRange name opened sought = ⟨utf8Len before, utf8Len before + utf8Len part⟩ ∧
      dropArgument name.toList = before ++ after := by
  -- An argument that is not closed extends to the end of the name, and so does its range.
  rcases argument_cases name.toList with plain | ⟨a, b, whole, first, unclosed⟩ |
    ⟨a, inner, b, whole, first, closes⟩
  · rw [Text.position?_eq_none_iff.2 plain] at opens
    cases opens
  · obtain rfl := Option.some.inj (opens.symm.trans (Text.position?_eq_some whole first))
    have size : name.utf8ByteSize = utf8Len a + utf8Len ('(' :: b) := by
      rw [← String.utf8Len_toList, whole, String.utf8Len_append]
    have missing : Text.position? ')' (String.ofList ('(' :: b)) = none :=
      Text.position?_eq_none_iff.2 (by simp [unclosed])
    refine ⟨_, a, '(' :: b, [], by rw [whole, List.append_nil], Text.slice?_end whole, ?_, ?_⟩
    · rw [argumentRange, missing, ← size]
      rfl
    · rw [whole, dropArgument_unclosed first unclosed, List.append_nil]
  · obtain rfl := Option.some.inj (opens.symm.trans (Text.position?_eq_some whole first))
    have closed : Text.position? ')' (String.ofList ('(' :: (inner ++ ')' :: b))) =
        some (utf8Len ('(' :: inner)) :=
      Text.position?_eq_some String.toList_ofList (by simp [closes])
    have size : utf8Len ('(' :: inner ++ [')']) = utf8Len ('(' :: inner) + 1 :=
      String.utf8Len_append ..
    refine ⟨_, a, '(' :: inner ++ [')'], b, by simp [whole], Text.slice?_end whole, ?_, ?_⟩
    · rw [argumentRange, closed, size]
      rfl
    · rw [whole, dropArgument_closed first closes]

/-- The cut drops the argument that is dropped. -/
theorem eraseArgument?_eq (name : String) :
    eraseArgument? name = some (String.ofList (dropArgument name.toList)) := by
  rw [eraseArgument?]
  cases opens : Text.position? '(' name with
  | none =>
    rw [dropArgument_eq_self (Text.position?_eq_none_iff.1 opens), String.ofList_toList]
  | some opened =>
    obtain ⟨sought, before, part, after, whole, cut, range, rest⟩ := exists_argument opens
    dsimp only
    rw [cut, Option.bind_some, range, Text.erase?_eq_some whole, rest]

/-- With the cut made, the normal form is the one that reading a name speaks of. -/
theorem normal?_eq (native : String) : normal? native = some (normalize native.toList) := by
  rw [normal?, eraseArgument?_eq, Option.map_some, folded, String.toList_ofList,
    String.toList_ofList]
  rfl

/-! ### The wrapped name -/

/-- The text of a wrapper has fewer bytes than the wrapper. -/
theorem utf8Len_argument?_lt {cs inner : List Char} (wraps : argument? cs = some inner) :
    utf8Len inner < utf8Len cs := by
  obtain ⟨word, blanks, rfl, -, -⟩ := argument?_eq_some_iff.1 wraps
  have opening := '('.utf8Size_pos
  rw [String.utf8Len_append, String.utf8Len_cons, String.utf8Len_append]
  omega

/-- **The text of a wrapper lies in its range**: it ends in front of the last byte of the body. -/
theorem innerRange?_of_argument? {native : String} {inner : List Char}
    (wraps : argument? native.toList = some inner) :
    ∃ before after, native.toList = before ++ inner ++ after ∧
      innerRange? native = some ⟨utf8Len before, utf8Len before + utf8Len inner⟩ ∧
      (body native).utf8ByteSize = utf8Len before + utf8Len inner + 1 := by
  obtain ⟨word, blanks, whole, plain, blank⟩ := argument?_eq_some_iff.1 wraps
  have trimmed : (body native).toList = word ++ ['('] ++ inner ++ [')'] := by
    rw [body, String.toList_ofList, whole, ← List.cons_append, ← List.append_assoc,
      Text.trimEnd_append_blanks _ rfl blank, List.append_cons word]
  have size : (body native).utf8ByteSize = utf8Len (word ++ ['(']) + utf8Len inner + 1 := by
    rw [← String.utf8Len_toList, trimmed, String.utf8Len_append, String.utf8Len_append]
    rfl
  have start : utf8Len (word ++ ['(']) = utf8Len word + 1 := String.utf8Len_append ..
  refine ⟨word ++ ['('], ')' :: blanks, by simp [whole], ?_, size⟩
  rw [innerRange?, Text.position?_eq_some whole plain]
  dsimp only
  rw [if_pos (by rw [trimmed, List.getLast?_concat]), size, start, Nat.add_sub_cancel]

/-- A name that wraps nothing has no range to cut. -/
theorem innerRange?_of_bare {native : String} (bare : argument? native.toList = none) :
    innerRange? native = none := by
  rw [innerRange?]
  cases opens : Text.position? '(' native with
  | none => rfl
  | some opened =>
    have inside : '(' ∈ native.toList := by
      by_contra plain
      rw [Text.position?_eq_none_iff.2 plain] at opens
      cases opens
    refine if_neg fun last => ?_
    rw [body, String.toList_ofList] at last
    rw [argument?, if_pos ⟨last, inside⟩] at bare
    cases bare

/-- What is cut out of a wrapper is the name it wraps, and it is shorter. -/
theorem slice?_innerRange {native : String} {r : ByteRange} (range : innerRange? native = some r) :
    r.stop + 1 = (body native).utf8ByteSize ∧ r.IsWithin native ∧
      ∃ inner, argument? native.toList = some inner ∧
        Text.slice? native r = some (String.ofList inner) ∧
        (String.ofList inner).utf8ByteSize < native.utf8ByteSize := by
  cases wraps : argument? native.toList with
  | none =>
    rw [innerRange?_of_bare wraps] at range
    cases range
  | some inner =>
    obtain ⟨before, after, whole, place, size⟩ := innerRange?_of_argument? wraps
    obtain rfl := Option.some.inj (range.symm.trans place)
    refine ⟨size.symm, Text.isWithin_of_append whole, inner, rfl, Text.slice?_eq_some whole, ?_⟩
    rw [String.utf8ByteSize_ofList, ← String.utf8Len_toList]
    exact utf8Len_argument?_lt wraps

/-! ### Reading a name -/

/-- **A step makes its cuts** and comes to what is listed, to what is wrapped, or to the end. -/
theorem step?_eq (native : String) : step? native = some
    (match lookup? (normalize native.toList), wrapped? native.toList with
    | some t, _ => .found t
    | none, some inner => .unwrapped (String.ofList inner)
    | none, none => .found unlisted) := by
  rw [step?, normal?_eq, Option.bind_some]
  cases lookup? (normalize native.toList) with
  | some t => rfl
  | none =>
    -- The name in its normal form is not listed, so the text between the parentheses is cut out,
    -- if there are any.
    cases wraps : argument? native.toList with
    | none =>
      rw [innerRange?_of_bare wraps, wrapped?, wraps]
      rfl
    | some inner =>
      obtain ⟨before, after, whole, range, -⟩ := innerRange?_of_argument? wraps
      rw [range, wrapped?, wraps, Option.filter_some]
      dsimp only
      rw [Text.slice?_eq_some whole, Option.map_some, String.toList_ofList]
      split <;> rfl

/-- Reading a name ends with its type. -/
theorem maps_valueType (cs : List Char) : Maps (String.ofList cs) (valueType cs) := by
  -- By induction on the names that are read one after another.
  have here := step?_eq (String.ofList cs)
  rw [String.toList_ofList] at here
  fun_induction valueType cs with
  | case1 cs t known =>
    rw [known] at here
    exact .found here
  | case2 cs unknown inner wraps ih =>
    rw [unknown, wraps] at here
    have shorter : (String.ofList inner).utf8ByteSize < (String.ofList cs).utf8ByteSize := by
      rw [String.utf8ByteSize_ofList, String.utf8ByteSize_ofList]
      exact utf8Len_argument?_lt (Option.eq_some_of_filter_eq_some wraps)
    exact .unwrapped here shorter (ih (by simpa using step?_eq (String.ofList inner)))
  | case3 cs unknown plain =>
    rw [unknown, plain] at here
    exact .found here

/-- **Reading a name never fails.**  Whatever the name is, the range in which its first argument
is sought and the range of that argument can be cut out of the trimmed name in upper case.  The
range of a wrapped name ends in front of the last byte of the body, can be cut out of the name as
it is written, and holds less than all of it.  So every step makes its cuts, and reading ends with
the type of the name. -/
theorem maps_ofNative (native : String) :
    (∀ opened, Text.position? '(' (folded native) = some opened →
      ∃ sought, Text.slice? (folded native) ⟨opened, (folded native).utf8ByteSize⟩ = some sought ∧
        (argumentRange (folded native) opened sought).IsWithin (folded native)) ∧
    (∀ r, innerRange? native = some r →
      r.stop + 1 = (body native).utf8ByteSize ∧ r.IsWithin native ∧
        ∃ inner, Text.slice? native r = some inner ∧
          inner.utf8ByteSize < native.utf8ByteSize) ∧
    Maps native (ValueType.ofNative native) := by
  refine ⟨fun opened opens => ?_, fun r range => ?_, ?_⟩
  · obtain ⟨sought, before, part, after, whole, cut, range, -⟩ := exists_argument opens
    exact ⟨sought, cut, range ▸ Text.isWithin_of_append whole⟩
  · obtain ⟨ends, within, inner, -, cut, shorter⟩ := slice?_innerRange range
    exact ⟨ends, within, _, cut, shorter⟩
  · have ends := maps_valueType native.toList
    rwa [String.ofList_toList] at ends

/-- A parenthesis that closes before one opens ends no argument, and upper case has more bytes. -/
example : argumentRange "A)B(C" 3 "(C" = ⟨3, 5⟩ ∧ normal? "ŉ) b(c" = some "ʼN) B".toList ∧
    innerRange? ")(" = none ∧ innerRange? "é((x)) " = some ⟨3, 6⟩ := by
  decide +kernel

end NativeType
end PagedQuery
