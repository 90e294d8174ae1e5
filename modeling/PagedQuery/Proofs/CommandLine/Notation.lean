/-
# The notation of a variable

An argument is a variable if it is written in one of two ways (`Denotes`), both with a name in
front that has no equals sign and is not blank.  In `name=word:value` the type is the one that the
word names, and the value is what stands behind the first colon.  In `name=value` the type is
string, and the value is all that stands behind the first equals sign.

A value can be written without a type only if what stands before its first colon names none, so no
argument is written in both ways.  Nothing but the name and the type is cut off: equals signs and
colons behind them belong to the value.  Every argument is read as the variable it is written for,
and refused if it is written for none (`readVariable_eq_ok_iff`, `readVariable_eq_error_iff`).
Both ways are cuts at the first place of a mark, and everything about them is read off
`splitFirst?_eq_some_iff`.
-/

import PagedQuery.CommandLine.Variable
import Mathlib.Data.List.TakeWhile

namespace PagedQuery

/-! ### Names and words -/

namespace Text

/-- Trimming leaves nothing of a blank text, and something of any other. -/
theorem trim_eq_nil_iff {cs : List Char} : trim cs = [] ↔ isAllBlank cs = true := by
  rw [trim, trimEnd, List.reverse_eq_nil_iff, List.dropWhile_eq_nil_iff, isAllBlank,
    List.all_eq_true]
  constructor
  · intro blank c inside
    have stops := List.head?_dropWhile_not isBlank cs
    cases rest : trimStart cs with
    | nil => exact List.dropWhile_eq_nil_iff.1 rest c inside
    | cons d ds =>
      rw [← trimStart, rest] at stops
      have blankHead := blank d (by rw [rest]; simp)
      simp [blankHead] at stops
  · intro blank c inside
    rw [List.mem_reverse] at inside
    exact blank c ((List.dropWhile_sublist _).subset inside)

/-- A character that is an ASCII one in lower case is one as it stands. -/
theorem toNat_lt_of_toLower {c : Char} (h : c.toLower.toNat < 0x80) : c.toNat < 0x80 := by
  delta Char.toLower at h
  split at h
  · next capital =>
    have last : c.toNat ≤ 'Z'.toNat := capital.2
    exact Nat.lt_of_le_of_lt last (by decide)
  · exact h

end Text

namespace ValueType

/-- Words for types are ASCII words without a colon. -/
theorem of_mem_word {t : ValueType} {c : Char} (inside : c ∈ t.word.toList) :
    c.toNat < 0x80 ∧ c ≠ ':' := by
  have each : t.word.toList.all (fun c => c.toNat < 0x80 && c != ':') = true := by
    cases t <;> decide
  simpa using List.all_eq_true.1 each c inside

/-- The word for a type names it in any case of its letters. -/
theorem ofWord?_of_map_toLower {t : ValueType} {cs : List Char}
    (same : cs.map Char.toLower = t.word.toList) : ofWord? cs = some t ∧ ':' ∉ cs := by
  have known : ∀ c ∈ cs, c.toLower.toNat < 0x80 ∧ c.toLower ≠ ':' := fun c inside =>
    of_mem_word (t := t) (same ▸ List.mem_map_of_mem inside)
  have lowered : Text.lower cs = t.word.toList := by
    rw [Text.lower, Text.lowerAfter_ascii fun c inside =>
      Text.toNat_lt_of_toLower (known c inside).1, same]
  have found : all.find? (fun u => u.word.toList == t.word.toList) = some t := by
    cases t <;> decide
  refine ⟨by rw [ofWord?, lowered, found], fun colon => ?_⟩
  exact (known ':' colon).2 (by decide)

end ValueType

namespace CommandLine

/-! ### The first mark -/

section FirstMark

variable {mark : Char} {cs before after : List Char}

/-- A text is cut at a mark if there is none before it. -/
theorem splitFirst?_append (absent : mark ∉ before) :
    splitFirst? mark (before ++ mark :: after) = some (before, after) := by
  have inside : ∀ c ∈ before, (c != mark) = true := fun c hc =>
    bne_iff_ne.2 fun same => absent (same ▸ hc)
  rw [splitFirst?, List.dropWhile_append_of_pos inside, List.takeWhile_append_of_pos inside]
  simp

/-- A text is cut at the first place of the mark, and the mark is in neither the part before nor, by
itself, the part behind: that may hold more of them. -/
theorem splitFirst?_eq_some_iff :
    splitFirst? mark cs = some (before, after) ↔ cs = before ++ mark :: after ∧ mark ∉ before := by
  constructor
  · intro found
    have whole := List.takeWhile_append_dropWhile (p := (· != mark)) (l := cs)
    have stops := List.head?_dropWhile_not (· != mark) cs
    rw [splitFirst?] at found
    split at found
    · cases found
    · next first rest behind =>
      obtain ⟨rfl, rfl⟩ := Prod.mk.inj (Option.some.inj found)
      rw [behind] at whole stops
      obtain rfl : first = mark := by simpa using stops
      refine ⟨whole.symm, fun inside => ?_⟩
      simpa using List.all_eq_true.1 List.all_takeWhile _ inside
  · rintro ⟨rfl, absent⟩
    exact splitFirst?_append absent

/-- Only a text without the mark cannot be cut. -/
theorem splitFirst?_eq_none_iff : splitFirst? mark cs = none ↔ mark ∉ cs := by
  constructor
  · intro missing inside
    obtain ⟨before, after, rfl, absent⟩ := List.eq_append_cons_of_mem inside
    rw [splitFirst?_append absent] at missing
    cases missing
  · intro absent
    cases found : splitFirst? mark cs with
    | none => rfl
    | some parts =>
      obtain ⟨rfl, -⟩ := splitFirst?_eq_some_iff.1 found
      exact absurd (List.mem_append_right _ (List.mem_cons_self ..)) absent

end FirstMark

/-! ### What an argument denotes -/

/-- Whether a text can stand in front of the equals sign.  It may have blanks in it and around it;
those around it are taken off. -/
structure IsName (name : String) : Prop where
  unmarked : '=' ∉ name.toList
  solid : Text.isAllBlank name.toList = false

instance (name : String) : Decidable (IsName name) :=
  decidable_of_iff ('=' ∉ name.toList ∧ Text.isAllBlank name.toList = false)
    ⟨fun h => ⟨h.1, h.2⟩, fun h => ⟨h.unmarked, h.solid⟩⟩

/-- A text without the blanks around it. -/
def trimmed (name : String) : String :=
  .ofList (Text.trim name.toList)

/-- Whether what stands before the first colon of a text names no type.  A text without a colon is
untyped, and so is a time such as `10:30`. -/
def IsUntyped (value : String) : Prop :=
  ∀ word rest, value = word ++ ":" ++ rest → ':' ∉ word.toList →
    ValueType.ofWord? word.toList = none

/-- Any characters are those of a text. -/
theorem exists_toList_eq (cs : List Char) : ∃ text : String, text.toList = cs :=
  ⟨.ofList cs, String.toList_ofList⟩

/-- A text with a mark in it, as characters. -/
theorem eq_append_iff {text before after mark : String} (c : Char) (single : mark.toList = [c]) :
    text = before ++ mark ++ after ↔ text.toList = before.toList ++ c :: after.toList := by
  rw [← String.toList_inj, String.toList_append, String.toList_append, single,
    List.append_assoc, List.singleton_append]

/-- Whether a value has a type in front is decided by one cut, though the definition speaks of all
ways to see a colon in it. -/
theorem isUntyped_iff {value : String} :
    IsUntyped value ↔ ∀ parts ∈ splitFirst? ':' value.toList, ValueType.ofWord? parts.1 = none := by
  constructor
  · intro untyped parts found
    obtain ⟨whole, unmarked⟩ := splitFirst?_eq_some_iff.1 found
    obtain ⟨word, front⟩ := exists_toList_eq parts.1
    obtain ⟨rest, behind⟩ := exists_toList_eq parts.2
    rw [← front] at whole unmarked ⊢
    rw [← behind] at whole
    exact untyped word rest ((eq_append_iff ':' rfl).2 whole) unmarked
  · intro untyped word rest whole unmarked
    rw [eq_append_iff ':' rfl] at whole
    exact untyped _ (splitFirst?_eq_some_iff.2 ⟨whole, unmarked⟩)

instance (value : String) : Decidable (IsUntyped value) :=
  decidable_of_iff _ isUntyped_iff.symm

/-- Whether an argument is written for a variable.  The value is always one; several values of a
variable are several arguments. -/
inductive Denotes : String → ScriptVariable → Prop
  | typed {name word value : String} {t : ValueType} (named : IsName name)
      (type : ValueType.ofWord? word.toList = some t) (unmarked : ':' ∉ word.toList) :
      Denotes (name ++ "=" ++ (word ++ ":" ++ value)) ⟨trimmed name, t, [value]⟩
  | untyped {name value : String} (named : IsName name) (untyped : IsUntyped value) :
      Denotes (name ++ "=" ++ value) ⟨trimmed name, .string, [value]⟩

/-- A value with a word for a type in front has that type. -/
theorem typedValue_typed {word value : String} {t : ValueType}
    (type : ValueType.ofWord? word.toList = some t) (unmarked : ':' ∉ word.toList) :
    typedValue (word ++ ":" ++ value).toList = (t, value.toList) := by
  rw [(eq_append_iff ':' rfl).1 rfl, typedValue, splitFirst?_append unmarked]
  simp only [type]

/-- A value without one is a string, colons included. -/
theorem typedValue_untyped {value : String} (untyped : IsUntyped value) :
    typedValue value.toList = (.string, value.toList) := by
  rw [typedValue]
  split
  · next word rest found => rw [isUntyped_iff.1 untyped _ found]
  · rfl

/-- What stands behind the equals sign is written in one of the two ways. -/
theorem isUntyped_or_exists_typed (value : String) :
    IsUntyped value ∨ ∃ word rest t, value = word ++ ":" ++ rest ∧
      ValueType.ofWord? word.toList = some t ∧ ':' ∉ word.toList := by
  by_cases typed : ∃ word rest t, value = word ++ ":" ++ rest ∧
      ValueType.ofWord? word.toList = some t ∧ ':' ∉ word.toList
  · exact .inr typed
  · refine .inl fun word rest whole unmarked => ?_
    cases type : ValueType.ofWord? word.toList with
    | none => rfl
    | some t => exact absurd ⟨word, rest, t, whole, type, unmarked⟩ typed

/-- Behind a name everything is read as a value: such an argument is never refused. -/
theorem readVariable_of_isName {name : String} (named : IsName name) (rest : String) :
    readVariable (name ++ "=" ++ rest) =
      .ok ⟨trimmed name, (typedValue rest.toList).1, [.ofList (typedValue rest.toList).2]⟩ := by
  have solid : (Text.trim name.toList).isEmpty = false := by
    rw [Bool.eq_false_iff, ne_eq, List.isEmpty_iff, Text.trim_eq_nil_iff, named.solid]
    decide
  rw [readVariable, (eq_append_iff '=' rfl).1 rfl, splitFirst?_append named.unmarked]
  simp only [solid, Bool.false_eq_true, if_false]
  rfl

/-- An argument with nothing but blanks before its first equals sign has no name. -/
theorem readVariable_of_isAllBlank {blanks : String}
    (blank : Text.isAllBlank blanks.toList = true) (rest : String) :
    readVariable (blanks ++ "=" ++ rest) = .error (.noName (blanks ++ "=" ++ rest)) := by
  have unmarked : '=' ∉ blanks.toList := fun inside =>
    absurd (List.all_eq_true.1 blank '=' inside) (by decide)
  have empty : (Text.trim blanks.toList).isEmpty = true :=
    List.isEmpty_iff.2 (Text.trim_eq_nil_iff.2 blank)
  rw [readVariable, (eq_append_iff '=' rfl).1 rfl, splitFirst?_append unmarked]
  simp only [empty, if_true]

/-- An argument without an equals sign has no value. -/
theorem readVariable_of_unmarked {argument : String} (unmarked : '=' ∉ argument.toList) :
    readVariable argument = .error (.noValue argument) := by
  rw [readVariable, splitFirst?_eq_none_iff.2 unmarked]

/-- An argument has no equals sign, only blanks in front of the first one, or a name. -/
theorem argument_cases (argument : String) :
    '=' ∉ argument.toList ∨
      (∃ blanks rest, argument = blanks ++ "=" ++ rest ∧ Text.isAllBlank blanks.toList = true) ∨
      ∃ name rest, argument = name ++ "=" ++ rest ∧ IsName name := by
  by_cases marked : '=' ∈ argument.toList
  · obtain ⟨before, after, whole, unmarked⟩ := List.eq_append_cons_of_mem marked
    obtain ⟨name, rfl⟩ := exists_toList_eq before
    obtain ⟨rest, rfl⟩ := exists_toList_eq after
    have parts : argument = name ++ "=" ++ rest := (eq_append_iff '=' rfl).2 whole
    cases blank : Text.isAllBlank name.toList with
    | true => exact .inr (.inl ⟨name, rest, parts, blank⟩)
    | false => exact .inr (.inr ⟨name, rest, parts, unmarked, blank⟩)
  · exact .inl marked

/-- What is written for a variable is read as that variable. -/
theorem Denotes.readVariable {argument : String} {v : ScriptVariable}
    (denotes : Denotes argument v) : readVariable argument = .ok v := by
  cases denotes with
  | typed named type unmarked =>
    rw [readVariable_of_isName named, typedValue_typed type unmarked, String.ofList_toList]
  | untyped named untyped =>
    rw [readVariable_of_isName named, typedValue_untyped untyped, String.ofList_toList]

/-- What starts with a name denotes a variable. -/
theorem exists_denotes {name : String} (named : IsName name) (rest : String) :
    ∃ v, Denotes (name ++ "=" ++ rest) v := by
  rcases isUntyped_or_exists_typed rest with untyped | ⟨word, value, t, rfl, type, unmarked⟩
  · exact ⟨_, .untyped named untyped⟩
  · exact ⟨_, .typed named type unmarked⟩

/-- **Arguments are read as what they are written for.**  No argument is written for two variables,
so reading it is not a choice. -/
theorem readVariable_eq_ok_iff {argument : String} {v : ScriptVariable} :
    readVariable argument = .ok v ↔ Denotes argument v := by
  refine ⟨fun read => ?_, Denotes.readVariable⟩
  rcases argument_cases argument with
    unmarked | ⟨blanks, rest, rfl, blank⟩ | ⟨name, rest, rfl, named⟩
  · rw [readVariable_of_unmarked unmarked] at read
    cases read
  · rw [readVariable_of_isAllBlank blank] at read
    cases read
  · obtain ⟨w, denotes⟩ := exists_denotes named rest
    rw [denotes.readVariable] at read
    exact Except.ok.inj read ▸ denotes

/-- **Why an argument is refused.**  It has no equals sign, or nothing but blanks in front of the
first one.  These two and an argument with a name are all there are (`argument_cases`), so every
argument is either refused for one of these reasons or read. -/
theorem readVariable_eq_error_iff {argument : String} {e : VariableError} :
    readVariable argument = .error e ↔
      '=' ∉ argument.toList ∧ e = .noValue argument ∨
      (∃ blanks rest, argument = blanks ++ "=" ++ rest ∧ Text.isAllBlank blanks.toList = true) ∧
        e = .noName argument := by
  constructor
  -- Each shape of an argument has one result, which is the refusal that was given or none.
  · intro refused
    rcases argument_cases argument with
      unmarked | ⟨blanks, rest, rfl, blank⟩ | ⟨name, rest, rfl, named⟩
    · rw [readVariable_of_unmarked unmarked] at refused
      exact .inl ⟨unmarked, (Except.error.inj refused).symm⟩
    · rw [readVariable_of_isAllBlank blank] at refused
      exact .inr ⟨⟨blanks, rest, rfl, blank⟩, (Except.error.inj refused).symm⟩
    · rw [readVariable_of_isName named] at refused
      cases refused
  · rintro (⟨unmarked, rfl⟩ | ⟨⟨blanks, rest, rfl, blank⟩, rfl⟩)
    · exact readVariable_of_unmarked unmarked
    · exact readVariable_of_isAllBlank blank rest

/-- **Reading a variable undoes its notation.**  A name that has no equals sign and is not blank,
an equals sign, the word for a type in any case of its letters, a colon and a value are read as
the variable of the name without the blanks around it, of that type and with that value.  Without
a type the value is read as a string, if what stands before its first colon names no type.  What
is refused has no equals sign, or only blanks before the first one. -/
theorem readVariable_notation :
    (∀ (name word value : String) (t : ValueType), IsName name →
      word.toList.map Char.toLower = t.word.toList →
      readVariable (name ++ "=" ++ (word ++ ":" ++ value)) = .ok ⟨trimmed name, t, [value]⟩) ∧
    (∀ name value : String, IsName name → IsUntyped value →
      readVariable (name ++ "=" ++ value) = .ok ⟨trimmed name, .string, [value]⟩) ∧
    ∀ argument : String, (∃ e, readVariable argument = .error e) ↔
      '=' ∉ argument.toList ∨
      ∃ blanks rest, argument = blanks ++ "=" ++ rest ∧ Text.isAllBlank blanks.toList = true := by
  refine ⟨fun name word value t named same => ?_, fun name value named untyped => ?_,
    fun argument => ?_⟩
  · obtain ⟨type, unmarked⟩ := ValueType.ofWord?_of_map_toLower same
    exact readVariable_eq_ok_iff.2 (.typed named type unmarked)
  · exact readVariable_eq_ok_iff.2 (.untyped named untyped)
  · simp only [readVariable_eq_error_iff, exists_or, exists_and_left, exists_eq, and_true]

/-- `readVariable_notation` at an address, which is full of marks, and at a time of day. -/
theorem readVariable_notation_address :
    IsName " url " ∧ "StrinG".toList.map Char.toLower = ValueType.string.word.toList ∧
      IsName "at" ∧ IsUntyped "12:30" ∧
      readVariable (" url " ++ "=" ++ ("StrinG" ++ ":" ++ "http://host/?a=b")) =
        .ok ⟨"url", .string, ["http://host/?a=b"]⟩ ∧
      readVariable ("at" ++ "=" ++ "12:30") = .ok ⟨"at", .string, ["12:30"]⟩ := by
  have url : IsName " url " := by decide
  have word : "StrinG".toList.map Char.toLower = ValueType.string.word.toList := by decide
  have time : IsName "at" := by decide
  have untyped : IsUntyped "12:30" := by decide
  obtain ⟨typed, plain, -⟩ := readVariable_notation
  exact ⟨url, word, time, untyped, typed _ _ _ _ url word, plain _ _ time untyped⟩

end CommandLine
end PagedQuery
