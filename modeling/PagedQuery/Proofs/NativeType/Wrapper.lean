/-
# Wrapped type names

A wrapper is a word that names no type by itself and is put around a name that does,
`Nullable(Int32)`.  The name in the parentheses is told from an argument by what it holds: digits
alone are an argument, and so is anything with a comma; then the type is string, as for every name
that is not known.  All else is a name, and the type is its type.

The name of the wrapper itself is found nowhere (`Wrapper.lookup?_wrap`): without its argument it
is the word alone, which is not listed, or it ends with the parenthesis of the wrapper, and no
listed name does.  So wrappers can be nested, and the type is that of the name inside unless there
is a comma (`wrapAll_transparent_iff`).  The comma may stand between the arguments of that name:
`Decimal(10, 2)` is a number, and `Nullable(Decimal(10, 2))` is not (`ofNative_nullable_decimal`).
That digits are taken for an argument does no harm, since a name of digits has no type of its own
either (`valueType_of_digits`).
-/

import PagedQuery.NativeType
import PagedQuery.Proofs.Text.UpperCase

namespace PagedQuery

namespace NativeType

/-! ### Names and wrapped names -/

/-- What is listed has a character that is neither a digit nor a blank, and no closing
parenthesis. -/
theorem of_lookup?_eq_some {normal : List Char} {t : ValueType} (h : lookup? normal = some t) :
    ')' ∉ normal ∧ ∃ c ∈ normal, c.isDigit = false ∧ c ≠ ' ' := by
  have all : ∀ entry ∈ listed, ∀ name ∈ entry.2, ')' ∉ name.toList ∧
      name.toList.any (fun c => !c.isDigit && c != ' ') = true := by decide +kernel
  obtain ⟨entry, found, -⟩ := Option.map_eq_some_iff.1 h
  have holds := List.find?_some found
  have name := all entry (List.mem_of_find?_eq_some found) _ (List.contains_iff_mem.1 holds)
  rw [String.toList_ofList, List.any_eq_true] at name
  obtain ⟨closed, c, inside, other⟩ := name
  exact ⟨closed, c, inside, by simpa using other⟩

/-- What holds no opening parenthesis is passed over while one is sought. -/
theorem bne_openParen_of_notMem {word : List Char} (h : '(' ∉ word) :
    ∀ c ∈ word, (c != '(') = true := by
  intro c inside
  rw [bne_iff_ne]
  rintro rfl
  exact h inside

/-- The first argument of a name is behind what has no opening parenthesis. -/
theorem dropArgument_append {word : List Char} (h : '(' ∉ word) (rest : List Char) :
    dropArgument (word ++ rest) = word ++ dropArgument rest := by
  have all := bne_openParen_of_notMem h
  rw [dropArgument, dropArgument, List.takeWhile_append_of_pos all,
    List.dropWhile_append_of_pos all, List.append_assoc]

/-- A name without parentheses loses nothing. -/
theorem dropArgument_eq_self {word : List Char} (h : '(' ∉ word) : dropArgument word = word := by
  simpa [dropArgument] using dropArgument_append h []

/-- Without its argument a wrapped name is its wrapper alone, or it still holds the
parenthesis at the end. -/
theorem dropArgument_wrapped {word : List Char} (h : '(' ∉ word) (inner : List Char) :
    dropArgument (word ++ '(' :: (inner ++ [')'])) = word ∨
      ')' ∈ dropArgument (word ++ '(' :: (inner ++ [')'])) := by
  have closed : dropArgument ('(' :: (inner ++ [')'])) =
      ((inner ++ [')']).dropWhile (· != ')')).drop 1 := by simp [dropArgument]
  rw [dropArgument_append h, closed, List.dropWhile_append]
  split
  · simp
  · next more =>
    obtain ⟨c, rest, later⟩ := List.exists_cons_of_ne_nil (mt List.isEmpty_iff.2 more)
    rw [later]
    simp

/-- A closing parenthesis behind the first argument is in the normal form. -/
theorem closeParen_mem_normalize {native : List Char}
    (h : ')' ∈ dropArgument (Text.upper (Text.trim native))) : ')' ∈ normalize native := by
  -- The words that are left out are qualifiers, and none of them holds a parenthesis.
  have qualifier : ∀ part ∈ qualifiers, ')' ∉ part.toList := by decide
  have solid : ')' ∈ (Text.words (dropArgument (Text.upper (Text.trim native)))).flatten := by
    rw [Text.flatten_words]
    exact (Text.mem_solidPart_iff rfl).2 h
  obtain ⟨part, found, holds⟩ := List.mem_flatten.1 solid
  refine (Text.mem_joinWith_iff (by decide)).2 ⟨part, List.mem_filter.2 ⟨found, ?_⟩, holds⟩
  rw [Bool.not_eq_true', Bool.eq_false_iff, ne_eq, List.contains_iff_mem]
  intro qualifies
  have free := qualifier _ qualifies
  rw [String.toList_ofList] at free
  exact free holds

/-- But for the blanks between words, the normal form of a name without an argument holds
characters of its upper case only. -/
theorem mem_upper_of_mem_normalize {native : List Char} {c : Char} (h : c ∈ normalize native)
    (solid : c ≠ ' ') (plain : '(' ∉ Text.upper (Text.trim native)) :
    c ∈ Text.upper (Text.trim native) := by
  obtain ⟨part, kept, holds⟩ := (Text.mem_joinWith_iff (by simpa using solid)).1 h
  have inside := List.mem_flatten.2 ⟨part, List.mem_of_mem_filter kept, holds⟩
  rw [dropArgument_eq_self plain, Text.flatten_words] at inside
  exact List.mem_of_mem_filter inside

/-- A name is looked up first, and what it wraps comes after that. -/
theorem valueType_eq (native : List Char) : valueType native =
    ((lookup? (normalize native)).or ((wrapped? native).map valueType)).getD
      NativeType.unlisted := by
  rw [valueType]
  split
  · next known => rw [known]; rfl
  · next unknown =>
    rw [unknown]
    split
    · next wraps => rw [wraps]; rfl
    · next plain => rw [plain]; rfl

/-- A listed name has the type it is listed for, whatever its argument holds. -/
theorem ofNative_of_lookup? {name : String} {t : ValueType}
    (known : lookup? (normalize name.toList) = some t) : ValueType.ofNative name = t := by
  rw [ValueType.ofNative, valueType_eq, known]
  rfl

/-- Digits name no type. -/
theorem valueType_of_digits {native : List Char}
    (digits : (Text.trim native).all Char.isDigit = true) :
    valueType native = NativeType.unlisted := by
  have each : ∀ c ∈ Text.trim native, c.isDigit = true := List.all_eq_true.1 digits
  have plain : '(' ∉ Text.trim native := fun inside => absurd (each _ inside) (by decide)
  have same := Text.upper_digits each
  have unknown : lookup? (normalize native) = none := by
    -- Every listed name has a letter, and a letter in capitals comes from a letter.
    rw [Option.eq_none_iff_forall_ne_some]
    intro t known
    obtain ⟨-, c, inside, other, solid⟩ := of_lookup?_eq_some known
    have upper := mem_upper_of_mem_normalize inside solid (by rwa [same])
    rw [same] at upper
    rw [each c upper] at other
    cases other
  have bare : argument? native = none :=
    if_neg fun argument => plain (Text.mem_trim argument.2 rfl)
  rw [valueType_eq, unknown, wrapped?, bare]
  rfl

/-! ### Wrappers -/

/-- A word that names no type by itself, such as `Nullable`.  Which words are wrappers is not listed
anywhere; every unknown one is taken for it. -/
structure Wrapper where
  /-- The letters in front of the parenthesis. -/
  word : String
  /-- Nothing in the word ends it. -/
  isWord : ∀ c ∈ word.toList, Text.isBlank c = false ∧ c ≠ '(' ∧ c ≠ ','
  /-- The word alone has no type. -/
  unlisted : lookup? (normalize word.toList) = none

namespace Wrapper

/-- The word put around a name. -/
def wrap (w : Wrapper) (name : String) : String :=
  w.word ++ "(" ++ name ++ ")"

/-- Letters that name no type are a wrapper.  Nothing but letters has to be looked at, since marks
and blanks are none. -/
def ofLetters (word : String) (letters : word.toList.all Char.isAlpha = true)
    (unlisted : lookup? (normalize word.toList) = none) : Wrapper where
  word := word
  isWord c inside := by
    have letter := List.all_eq_true.1 letters c inside
    refine ⟨Text.isBlank_eq_false_of_isAlpha letter, ?_, ?_⟩
    · rintro rfl
      cases letter
    · rintro rfl
      cases letter
  unlisted := unlisted

/-- The wrapper of a column that may have no value. -/
def nullable : Wrapper :=
  ofLetters "Nullable" (by decide) (by decide +kernel)

/-- The wrapper of a column with few values. -/
def lowCardinality : Wrapper :=
  ofLetters "LowCardinality" (by decide) (by decide +kernel)

/-- A wrapped name is the word, and the name in parentheses. -/
theorem toList_wrap (w : Wrapper) (name : String) :
    (w.wrap name).toList = w.word.toList ++ '(' :: (name.toList ++ [')']) := by
  simp [wrap]

/-- The first opening parenthesis of a wrapped name is the wrapper's own. -/
theorem openParen_notMem_word (w : Wrapper) : '(' ∉ w.word.toList :=
  fun inside => (w.isWord _ inside).2.1 rfl

/-- There are no blanks around a word. -/
theorem trim_word (w : Wrapper) : Text.trim w.word.toList = w.word.toList :=
  Text.trim_eq_self fun c inside => (w.isWord c inside).1

/-- A wrapped name has no blanks around it either: it starts with the word and ends with a
parenthesis. -/
theorem trim_wrap (w : Wrapper) (name : String) :
    Text.trim (w.wrap name).toList = (w.wrap name).toList := by
  have starts : ∀ c ∈ (w.wrap name).toList.head?, Text.isBlank c = false := fun c first => by
    rw [toList_wrap, List.head?_append, List.head?_cons] at first
    cases word : w.word.toList.head? with
    | none =>
      rw [word] at first
      obtain rfl := Option.some.inj first
      rfl
    | some d =>
      rw [word] at first
      obtain rfl := Option.some.inj first
      exact (w.isWord _ (List.mem_of_mem_head? word)).1
  rw [Text.trim, Text.trimStart_eq_self starts, toList_wrap]
  simpa using Text.trimEnd_append_singleton (w.word.toList ++ '(' :: name.toList) rfl

/-- A wrapped name is not listed, whatever it wraps. -/
theorem lookup?_wrap (w : Wrapper) (name : String) :
    lookup? (normalize (w.wrap name).toList) = none := by
  have plain : '(' ∉ Text.upper w.word.toList :=
    mt (Text.mem_upper_iff (by decide +kernel)).1 w.openParen_notMem_word
  have upper : Text.upper (Text.trim (w.wrap name).toList) =
      Text.upper w.word.toList ++ '(' :: (Text.upper name.toList ++ [')']) := by
    rw [trim_wrap, toList_wrap, Text.upper_append, ← List.singleton_append, Text.upper_append,
      Text.upper_append]
    rfl
  -- The parenthesis at the end goes with the argument only if there is none before it.
  rcases dropArgument_wrapped plain (Text.upper name.toList) with alone | closed
  · have same : normalize (w.wrap name).toList = normalize w.word.toList := by
      simp only [normalize]
      rw [upper, alone, trim_word, dropArgument_eq_self plain]
    rw [same, w.unlisted]
  · rw [← upper] at closed
    rw [Option.eq_none_iff_forall_ne_some]
    intro t known
    exact (of_lookup?_eq_some known).1 (closeParen_mem_normalize closed)

/-- The argument of a wrapped name is the name itself, whatever parentheses stand in it. -/
theorem argument?_wrap (w : Wrapper) (name : String) :
    argument? (w.wrap name).toList = some name.toList := by
  have body : Text.trimEnd (w.wrap name).toList =
      (w.word.toList ++ '(' :: name.toList) ++ [')'] := by
    rw [← Text.trimEnd_append_singleton _ rfl, toList_wrap, List.append_assoc, List.cons_append]
  simp only [argument?, body]
  rw [if_pos ⟨List.getLast?_concat, by simp [toList_wrap]⟩, List.dropLast_concat,
    List.dropWhile_append_of_pos (bne_openParen_of_notMem w.openParen_notMem_word)]
  simp

/-- That argument is read as a name unless it holds a comma or is digits alone. -/
theorem wrapped?_wrap (w : Wrapper) (name : String) : wrapped? (w.wrap name).toList =
    if ',' ∈ name.toList ∨ (Text.trim name.toList).all Char.isDigit = true then none
    else some name.toList := by
  rw [wrapped?, argument?_wrap]
  split
  · next argument => exact Option.filter_some_neg (by simpa [or_iff_not_imp_left] using argument)
  · next inner => exact Option.filter_some_pos (by simpa using inner)

/-- **A wrapped name has the type of the name inside**, or is a string if there is a comma.  The
comma may stand anywhere in it. -/
theorem ofNative_wrap (w : Wrapper) (name : String) : ValueType.ofNative (w.wrap name) =
    if ',' ∈ name.toList then .string else ValueType.ofNative name := by
  rw [ValueType.ofNative, ValueType.ofNative, valueType_eq, lookup?_wrap, wrapped?_wrap,
    Option.none_or]
  by_cases comma : ',' ∈ name.toList
  · rw [if_pos (.inl comma), if_pos comma]
    rfl
  · rw [if_neg comma]
    split
    -- Digits are taken for an argument, and they name no type by themselves either.
    · next digits => rw [valueType_of_digits (digits.resolve_left comma)]; rfl
    · rfl

/-- A wrapper adds no comma, so the commas of a wrapped name are those of the name. -/
theorem comma_mem_wrap {w : Wrapper} {name : String} :
    ',' ∈ (w.wrap name).toList ↔ ',' ∈ name.toList := by
  have word : ',' ∉ w.word.toList := fun inside => (w.isWord _ inside).2.2 rfl
  simp [toList_wrap, word]

end Wrapper

/-- Wrappers put around a name, the first one outside. -/
def wrapAll (ws : List Wrapper) (name : String) : String :=
  ws.foldr Wrapper.wrap name

/-- Nor do several wrappers add one. -/
theorem comma_mem_wrapAll {ws : List Wrapper} {name : String} :
    ',' ∈ (wrapAll ws name).toList ↔ ',' ∈ name.toList := by
  induction ws with
  | nil => rfl
  | cons w ws ih => exact Wrapper.comma_mem_wrap.trans ih

/-- **Wrappers can be nested**: the type is that of the name inside, unless a comma is in it.  A
wrapper adds no comma, so it is the innermost name that decides. -/
theorem ofNative_wrapAll (ws : List Wrapper) (name : String) :
    ValueType.ofNative (wrapAll ws name) =
      if ws ≠ [] ∧ ',' ∈ name.toList then .string else ValueType.ofNative name := by
  induction ws with
  | nil => rfl
  | cons w ws ih =>
    rw [wrapAll, List.foldr_cons, w.ofNative_wrap, ← wrapAll]
    -- The outermost wrapper sees the comma at any depth, so it alone decides.
    by_cases comma : ',' ∈ name.toList
    · rw [if_pos (comma_mem_wrapAll.2 comma), if_pos ⟨List.cons_ne_nil w ws, comma⟩]
    · rw [if_neg (mt comma_mem_wrapAll.1 comma), ih, if_neg (fun both => comma both.2),
        if_neg (fun both => comma both.2)]

/-- **Wrappers are transparent but for commas.**  At any depth a wrapped name has the type of
the name inside exactly if that one has no comma, also none between its own arguments, or is a
string itself; where the type is another one it is string. -/
theorem wrapAll_transparent_iff (ws : List Wrapper) (name : String) :
    (ValueType.ofNative (wrapAll ws name) = ValueType.ofNative name ↔
      ws = [] ∨ ',' ∉ name.toList ∨ ValueType.ofNative name = .string) ∧
    (ValueType.ofNative (wrapAll ws name) ≠ ValueType.ofNative name →
      ValueType.ofNative (wrapAll ws name) = .string) := by
  rw [ofNative_wrapAll]
  -- Either a wrapper is there and the name has a comma, and the type is string, or the type is
  -- that of the name.
  split
  · next hidden =>
    refine ⟨⟨fun same => .inr (.inr same.symm), fun seen => ?_⟩, fun _ => rfl⟩
    rcases seen with none | plain | string
    · exact absurd none hidden.1
    · exact absurd hidden.2 plain
    · exact string.symm
  · next seen =>
    refine ⟨⟨fun _ => ?_, fun _ => rfl⟩, fun other => absurd rfl other⟩
    by_cases none : ws = []
    · exact .inl none
    · exact .inr (.inl fun comma => seen ⟨none, comma⟩)

/-- Two wrappers, and a name with one argument inside. -/
example : ValueType.ofNative "Nullable(LowCardinality(Decimal(10)))" = .numeric :=
  calc
    _ = ValueType.ofNative "Decimal(10)" :=
      (ofNative_wrapAll [.nullable, .lowCardinality] "Decimal(10)").trans (if_neg (by decide))
    _ = .numeric := ofNative_of_lookup? (by decide +kernel)

/-- Whether the parentheses of a text are balanced, behind some that are open. -/
def isBalanced : Nat → List Char → Bool
  | opened, [] => opened == 0
  | opened, '(' :: cs => isBalanced (opened + 1) cs
  | 0, ')' :: _ => false
  | opened + 1, ')' :: cs => isBalanced opened cs
  | opened, _ :: cs => isBalanced opened cs

/-- A decimal number with a precision and a scale is a number, and a string if it may have no
value. -/
theorem ofNative_nullable_decimal :
    Wrapper.nullable.word.toList.all Char.isAlpha = true ∧
      isBalanced 0 "Decimal(10, 2)".toList = true ∧
      Wrapper.nullable.wrap "Decimal(10, 2)" = "Nullable(Decimal(10, 2))" ∧
      ValueType.ofNative "Decimal(10, 2)" = .numeric ∧
      ValueType.ofNative "Nullable(Decimal(10, 2))" = .string := by
  refine ⟨by decide, by decide, by decide, ofNative_of_lookup? (by decide +kernel), ?_⟩
  exact (Wrapper.nullable.ofNative_wrap "Decimal(10, 2)").trans (if_pos (by decide))

end NativeType
end PagedQuery
