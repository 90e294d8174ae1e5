/-
# Decorated type names

A driver may write a listed name in any case, with any blanks around it and between its words,
with an argument, and with qualifiers.  `DOUBLE PRECISION` is the normal form of `double
precision`, of `Double (10, 2)Precision` and of `UNSIGNED double precision zerofill` alike.  A
`Spelling` is such a way of writing a name.

The normal form is the words outside the first argument, in upper case and without the qualifiers
(`normalize_eq`), so a name is found however it is written (`Spelling.lookup?_text`).

A name that is not found may wrap another one, which is then read with the letters and blanks it
was written with.  Here the normal form does not help, since what is read next is the text and not
its normal form.  Instead a change of texts that leaves their marks in place and their words alike
is called `Harmless`; the type is the same after it at any depth (`Harmless.valueType_eq`), and
both a change of case and collapsing blanks are such changes.
-/

import PagedQuery.Proofs.NativeType.Wrapper

namespace PagedQuery
namespace NativeType

open Text

/-! ### The words of a normal form -/

section Normal

variable {cs a b inner : List Char}

/-- What stands in the first parentheses is dropped with them. -/
theorem dropArgument_closed (before : '(' ∉ a) (closes : ')' ∉ inner) (b : List Char) :
    dropArgument (a ++ '(' :: (inner ++ ')' :: b)) = a ++ b := by
  have passed : ∀ c ∈ inner, (c != ')') = true := fun c inside =>
    bne_iff_ne.2 (ne_of_mem_of_not_mem inside closes)
  rw [dropArgument_append before, dropArgument, List.takeWhile_cons_of_neg (by simp),
    List.dropWhile_cons_of_neg (by simp), List.dropWhile_cons_of_pos (by simp),
    List.dropWhile_append_of_pos passed, List.dropWhile_cons_of_neg (by simp)]
  rfl

/-- Parentheses that are not closed extend to the end. -/
theorem dropArgument_unclosed (before : '(' ∉ a) (unclosed : ')' ∉ b) :
    dropArgument (a ++ '(' :: b) = a := by
  have passed : ∀ c ∈ b, (c != ')') = true := fun c inside =>
    bne_iff_ne.2 (ne_of_mem_of_not_mem inside unclosed)
  rw [dropArgument_append before, dropArgument, List.takeWhile_cons_of_neg (by simp),
    List.dropWhile_cons_of_neg (by simp), List.dropWhile_cons_of_pos (by simp),
    List.dropWhile_eq_nil_iff.2 passed]
  simp

/-- A text has no parentheses, or some that are not closed, or a first argument. -/
theorem argument_cases (cs : List Char) :
    '(' ∉ cs ∨ (∃ a b, cs = a ++ '(' :: b ∧ '(' ∉ a ∧ ')' ∉ b) ∨
      ∃ a inner b, cs = a ++ '(' :: (inner ++ ')' :: b) ∧ '(' ∉ a ∧ ')' ∉ inner := by
  by_cases opens : '(' ∈ cs
  · obtain ⟨a, rest, rfl, before⟩ := List.eq_append_cons_of_mem opens
    by_cases closes : ')' ∈ rest
    · obtain ⟨inner, b, rfl, inside⟩ := List.eq_append_cons_of_mem closes
      exact .inr (.inr ⟨a, inner, b, rfl, before, inside⟩)
    · exact .inr (.inl ⟨a, rest, rfl, before, closes⟩)
  · exact .inl opens

/-- Blanks open no argument. -/
theorem openParen_notMem_of_isAllBlank (blank : isAllBlank a = true) : '(' ∉ a := fun inside =>
  absurd (isAllBlank_iff.1 blank '(' inside) (by decide)

/-- Blanks close no argument. -/
theorem closeParen_notMem_of_isAllBlank (blank : isAllBlank a = true) : ')' ∉ a := fun inside =>
  absurd (isAllBlank_iff.1 blank ')' inside) (by decide)

/-- Blanks around a name are no words of it. -/
theorem words_dropArgument_surrounded (before : isAllBlank a = true) (after : isAllBlank b = true)
    (cs : List Char) : words (dropArgument (a ++ (cs ++ b))) = words (dropArgument cs) := by
  rw [dropArgument_append (openParen_notMem_of_isAllBlank before), words_isAllBlank_append before]
  rcases argument_cases cs with plain | ⟨x, y, rfl, first, unclosed⟩ | ⟨x, inner, y, rfl, first, closes⟩
  · rw [dropArgument_append plain, dropArgument_eq_self plain,
      dropArgument_eq_self (openParen_notMem_of_isAllBlank after),
      words_append_isAllBlank cs after]
  · have unclosed' : ')' ∉ y ++ b := by
      simp [unclosed, closeParen_notMem_of_isAllBlank after]
    rw [List.append_assoc, List.cons_append, dropArgument_unclosed first unclosed',
      dropArgument_unclosed first unclosed]
  · rw [List.append_assoc, List.cons_append, List.append_assoc, List.cons_append,
      dropArgument_closed first closes, dropArgument_closed first closes, ← List.append_assoc,
      words_append_isAllBlank _ after]

/-- An argument is found in upper case where it is found at first. -/
theorem dropArgument_upper (cs : List Char) : dropArgument (upper cs) = upper (dropArgument cs) := by
  have opens : isUncased '(' = true := by decide +kernel
  have closes : isUncased ')' = true := by decide +kernel
  have rest : ((upper (cs.dropWhile (· != '('))).dropWhile (· != ')')).drop 1 =
      upper (((cs.dropWhile (· != '(')).dropWhile (· != ')')).drop 1) := by
    rw [dropWhile_upper closes]
    have stops := List.head?_dropWhile_not (· != ')') (cs.dropWhile (· != '('))
    cases after : (cs.dropWhile (· != '(')).dropWhile (· != ')') with
    | nil => rfl
    | cons c ds =>
      rw [after] at stops
      obtain rfl : c = ')' := by simpa using stops
      rw [upper_cons, upperChar_of_isUncased closes]
      rfl
  rw [dropArgument, takeWhile_upper opens, dropWhile_upper opens, rest, ← upper_append,
    ← dropArgument]

/-- Whether a word in upper case is none of the qualifiers. -/
def isNameWord (word : List Char) : Bool :=
  !qualifiers.contains (String.ofList word)

/-- **The normal form of a name is its words outside the first argument**, in upper case and
without the qualifiers. -/
theorem normalize_eq (native : List Char) : normalize native =
    joinWith " " (((words (dropArgument native)).map upper).filter isNameWord) := by
  obtain ⟨a, b, before, after, whole⟩ := exists_append_trim_append native
  have same : words (dropArgument native) = words (dropArgument (trim native)) := by
    conv_lhs => rw [whole]
    exact words_dropArgument_surrounded before after _
  rw [same, ← words_upper, ← dropArgument_upper]
  rfl

end Normal

/-! ### The argument of a wrapper -/

section Argument

variable {cs before inner b : List Char}

/-- What stands between the first opening parenthesis and a closing one at the end is the argument,
also where it holds parentheses itself. -/
theorem argument?_append (plain : '(' ∉ before) (blank : isAllBlank b = true) :
    argument? (before ++ '(' :: (inner ++ ')' :: b)) = some inner := by
  have body : trimEnd (before ++ '(' :: (inner ++ ')' :: b)) = (before ++ '(' :: inner) ++ [')'] := by
    rw [← trimEnd_append_blanks (before ++ '(' :: inner) rfl blank, List.append_assoc,
      List.cons_append]
  simp only [argument?, body]
  rw [if_pos ⟨List.getLast?_concat, by simp⟩, List.dropLast_concat,
    List.dropWhile_append_of_pos (bne_openParen_of_notMem plain)]
  simp

/-- A text has an argument if it has an opening parenthesis and ends with a closing one. -/
theorem argument?_eq_none_iff :
    argument? cs = none ↔ ¬ ((solidPart cs).getLast? = some ')' ∧ '(' ∈ cs) := by
  simp only [argument?, getLast?_trimEnd]
  split <;> simp_all

/-- The argument of a text stands between its first opening parenthesis and the closing one at
its end. -/
theorem argument?_eq_some_iff : argument? cs = some inner ↔
    ∃ before b, cs = before ++ '(' :: (inner ++ ')' :: b) ∧ '(' ∉ before ∧
      isAllBlank b = true := by
  constructor
  · intro found
    have ends : (solidPart cs).getLast? = some ')' ∧ '(' ∈ cs := by
      by_contra none
      rw [argument?_eq_none_iff.2 none] at found
      cases found
    obtain ⟨last, opens⟩ := ends
    -- The last character that is no blank is the closing parenthesis.
    rcases isAllBlank_or_exists_last cs with blank | ⟨whole, c, b, rfl, solid, blank⟩
    · rw [solidPart_eq_nil_iff.2 blank] at last
      cases last
    rw [← getLast?_trimEnd, trimEnd_append_blanks whole solid blank, List.getLast?_concat] at last
    obtain rfl := Option.some.inj last
    have opens' : '(' ∈ whole := by
      simpa [openParen_notMem_of_isAllBlank blank] using opens
    -- The text is parted at its first opening parenthesis.
    obtain ⟨before, rest, rfl, plain⟩ := List.eq_append_cons_of_mem opens'
    rw [List.append_assoc, List.cons_append] at found ⊢
    rw [argument?_append plain blank] at found
    obtain rfl := Option.some.inj found
    exact ⟨before, b, rfl, plain, blank⟩
  · rintro ⟨before, b, rfl, plain, blank⟩
    exact argument?_append plain blank

/-- Blanks around a wrapper do not change what it wraps. -/
theorem wrapped?_surrounded {a b : List Char} (before : isAllBlank a = true)
    (after : isAllBlank b = true) (cs : List Char) : wrapped? (a ++ (cs ++ b)) = wrapped? cs := by
  suffices same : argument? (a ++ (cs ++ b)) = argument? cs by rw [wrapped?, same, wrapped?]
  cases found : argument? cs with
  | none =>
    rw [argument?_eq_none_iff] at found ⊢
    rw [solidPart_append, solidPart_append, solidPart_eq_nil_iff.2 before,
      solidPart_eq_nil_iff.2 after, List.nil_append, List.append_nil]
    simpa [openParen_notMem_of_isAllBlank before, openParen_notMem_of_isAllBlank after] using found
  | some inner =>
    obtain ⟨x, y, rfl, plain, blank⟩ := argument?_eq_some_iff.1 found
    refine argument?_eq_some_iff.2 ⟨a ++ x, y ++ b, by simp, ?_, isAllBlank_append blank after⟩
    simp [plain, openParen_notMem_of_isAllBlank before]

end Argument

/-! ### Changes that do not matter -/

/-- A change of texts that leaves the marks of a name in place and its words alike.  The marks are
what the search through wrappers looks at, the words are what a name is found by. -/
structure Harmless (f : List Char → List Char) : Prop where
  /-- A parenthesis stays where it is, and its two sides are changed each by itself. -/
  split : ∀ m, m = '(' ∨ m = ')' → ∀ a b, f (a ++ m :: b) = f a ++ m :: f b
  /-- No mark appears or disappears. -/
  mem_iff : ∀ m, m = '(' ∨ m = ')' ∨ m = ',' → ∀ cs, m ∈ f cs ↔ m ∈ cs
  /-- What ends with a closing parenthesis still does. -/
  ends_iff : ∀ cs, (solidPart (f cs)).getLast? = some ')' ↔ (solidPart cs).getLast? = some ')'
  /-- Blanks stay blanks. -/
  blank : ∀ cs, isAllBlank cs = true → isAllBlank (f cs) = true
  /-- The words are the same but for their case, also those that two parts make at a seam. -/
  words : ∀ a b, (words (f a ++ f b)).map upper = (Text.words (a ++ b)).map upper
  /-- What is digits alone still is. -/
  digits : ∀ cs, (trim (f cs)).all Char.isDigit = (trim cs).all Char.isDigit

namespace Harmless

variable {f : List Char → List Char} (h : Harmless f)

include h

/-- The normal form does not see the change.  The cases are those of an argument, since the words on
its two sides are joined when it is dropped. -/
theorem normalize_eq (cs : List Char) : normalize (f cs) = normalize cs := by
  have notMem {m : Char} (mark : m = '(' ∨ m = ')' ∨ m = ',') {cs : List Char} (none : m ∉ cs) :
      m ∉ f cs := mt (h.mem_iff m mark cs).1 none
  have nothing : Text.words (f []) = [] := words_of_isAllBlank (h.blank [] rfl)
  have alone (a : List Char) : (Text.words (f a)).map upper = (Text.words a).map upper := by
    have both := h.words a []
    rwa [words_append_isAllBlank _ (h.blank [] rfl), List.append_nil] at both
  suffices same : (Text.words (dropArgument (f cs))).map upper =
      (Text.words (dropArgument cs)).map upper by
    rw [NativeType.normalize_eq, same, NativeType.normalize_eq]
  rcases argument_cases cs with plain | ⟨a, b, rfl, first, unclosed⟩ | ⟨a, inner, b, rfl, first, closes⟩
  · rw [dropArgument_eq_self plain, dropArgument_eq_self (notMem (by simp) plain), alone]
  · rw [h.split '(' (by simp), dropArgument_unclosed first unclosed,
      dropArgument_unclosed (notMem (by simp) first) (notMem (by simp) unclosed), alone]
  · rw [h.split '(' (by simp), h.split ')' (by simp), dropArgument_closed first closes,
      dropArgument_closed (notMem (by simp) first) (notMem (by simp) closes), h.words]

/-- The argument of a changed text is the changed argument. -/
theorem argument?_eq (cs : List Char) : argument? (f cs) = (argument? cs).map f := by
  cases found : argument? cs with
  | none =>
    rw [argument?_eq_none_iff] at found
    rw [Option.map_none, argument?_eq_none_iff, h.ends_iff, h.mem_iff '(' (by simp)]
    exact found
  | some inner =>
    obtain ⟨before, b, rfl, plain, blank⟩ := argument?_eq_some_iff.1 found
    rw [h.split '(' (by simp), h.split ')' (by simp)]
    exact argument?_append (mt (h.mem_iff '(' (by simp) before).1 plain) (h.blank b blank)

/-- So is the name it wraps: whether it is one depends on commas and digits only. -/
theorem wrapped?_eq (cs : List Char) : wrapped? (f cs) = (wrapped? cs).map f := by
  have comma (inner : List Char) : (f inner).contains ',' = inner.contains ',' := by
    rw [Bool.eq_iff_iff, List.contains_iff_mem, List.contains_iff_mem]
    exact h.mem_iff ',' (by simp) inner
  rw [wrapped?, h.argument?_eq, wrapped?]
  cases argument? cs with
  | none => rfl
  | some inner => simp only [Option.map_some, Option.filter_some, comma, h.digits]; split <;> rfl

/-- **The type of a name is the same after a change that does not matter**, at any depth.  The
induction is on the length of the name, as the search goes. -/
theorem valueType_eq (cs : List Char) : valueType (f cs) = valueType cs := by
  fun_induction valueType cs with
  | case1 cs t known => rw [NativeType.valueType_eq, h.normalize_eq, known]; rfl
  -- The changed text wraps the changed name, to which the induction hypothesis applies.
  | case2 cs unknown inner wraps ih =>
    rw [NativeType.valueType_eq, h.normalize_eq, unknown, h.wrapped?_eq, wraps]
    exact ih
  | case3 cs unknown plain =>
    rw [NativeType.valueType_eq, h.normalize_eq, unknown, h.wrapped?_eq, plain]
    rfl

end Harmless

/-- Runs of blanks may be collapsed. -/
theorem harmless_collapse : Harmless collapse where
  split m mark a b := collapse_append_cons (by rcases mark with rfl | rfl <;> rfl) a b
  mem_iff m mark cs := by
    have solid : isBlank m = false := by rcases mark with rfl | rfl | rfl <;> rfl
    rw [← mem_solidPart_iff solid, solidPart_collapse, mem_solidPart_iff solid]
  ends_iff cs := by rw [solidPart_collapse]
  blank _ := isAllBlank_collapse
  words a b := by
    -- Runs at the seam may join, and their words are those of what they are made of.
    have second : words (a ++ collapse b) = words (a ++ b) :=
      words_append_congr (words_collapse b) (startsBlank_collapse b)
    rw [words_collapse_append, second]
  digits cs := by
    rw [trim_collapse, Bool.eq_iff_iff, List.all_eq_true, List.all_eq_true]
    constructor
    · intro digits
      have solid : ∀ c ∈ trim cs, isBlank c = false := fun c inside => by
        rw [Bool.eq_false_iff]
        intro blank
        exact absurd (digits ' ' (space_mem_collapse inside blank)) (by decide)
      rwa [collapse_eq_self solid] at digits
    · intro digits
      have solid : ∀ c ∈ trim cs, isBlank c = false :=
        fun c inside => isBlank_eq_false_of_isDigit (digits c inside)
      rwa [collapse_eq_self solid]

/-- Letters may be in any case. -/
theorem harmless_toUpper : Harmless (List.map Char.toUpper) where
  split m mark a b := by
    rw [List.map_append, List.map_cons]
    rcases mark with rfl | rfl <;> rfl
  -- No letter is a parenthesis or a comma in any case.
  mem_iff m mark cs := by
    have same : ∀ c : Char, c.toUpper = m ↔ c = m := by
      rcases mark with rfl | rfl | rfl <;> exact toUpper_eq_iff (by decide)
    simp [same]
  ends_iff cs := by
    have same : ∀ c : Char, c.toUpper = ')' ↔ c = ')' := toUpper_eq_iff (by decide)
    rw [solidPart_map_toUpper, List.getLast?_map]
    simp [same]
  blank cs blank := by
    rw [isAllBlank, List.all_map, isBlank_comp_toUpper]
    exact blank
  words a b := by rw [← List.map_append, ← words_upper, upper_map_toUpper, words_upper]
  digits cs := by
    have same : Char.isDigit ∘ Char.toUpper = Char.isDigit := funext (congr_toUpper (by decide))
    rw [trim_map_toUpper, List.all_map, same]

/-! ### Names as they are written -/

/-- Whether written words are the words of a name in any case, with qualifiers before, between
and behind them. -/
inductive IsQualified : (written plain : List (List Char)) → Prop
  | nil : IsQualified [] []
  | word {w : List Char} {p : List Char} {ws ps : List (List Char)}
      (same : w.map Char.toUpper = p) (others : IsQualified ws ps) :
      IsQualified (w :: ws) (p :: ps)
  | qualifier {w : List Char} {q : String} {ws ps : List (List Char)} (listed : q ∈ qualifiers)
      (same : w.map Char.toUpper = q.toList) (others : IsQualified ws ps) :
      IsQualified (w :: ws) ps

/-- Whether a word is one in upper case, without parentheses.  Such a word is left alone by all that
the normal form does. -/
def isPlain (word : List Char) : Bool :=
  upper word == word && word != [] && word.all fun c => !isBlank c && c != '('

/-- The qualifiers are words in upper case themselves. -/
theorem isPlain_qualifier : ∀ q ∈ qualifiers, isPlain q.toList = true := by
  decide

/-- A listed name is listed for one type. -/
theorem lookup?_listed {entry : ValueType × List String} (inside : entry ∈ listed) {name : String}
    (known : name ∈ entry.2) : lookup? name.toList = some entry.1 := by
  have once : ∀ entry ∈ listed, ∀ name ∈ entry.2,
      (listed.find? fun entry => entry.2.contains name).map (·.1) = some entry.1 := by
    decide +kernel
  rw [lookup?, String.ofList_toList]
  exact once entry inside name known

/-- A listed name is its words one space apart, in upper case and without qualifiers. -/
theorem listed_words : ∀ entry ∈ listed, ∀ name ∈ entry.2,
    joinWith " " (words name.toList) = name.toList ∧
      ∀ word ∈ words name.toList, isPlain word = true ∧ isNameWord word = true := by
  decide +kernel

section Written

variable {w p : List Char} {ws ps : List (List Char)}

/-- Letters in any case have the word for their upper case. -/
theorem upper_of_map_toUpper (plain : isPlain p = true) (same : w.map Char.toUpper = p) :
    upper w = p := by
  simp only [isPlain, Bool.and_eq_true, beq_iff_eq] at plain
  rw [← upper_map_toUpper, same, plain.1.1]

/-- A word in any case has the characters of a word. -/
theorem isWord_of_map_toUpper (plain : isPlain p = true) (same : w.map Char.toUpper = p) :
    w ≠ [] ∧ ∀ c ∈ w, isBlank c = false ∧ c ≠ '(' := by
  simp only [isPlain, Bool.and_eq_true, bne_iff_ne, List.all_eq_true, Bool.not_eq_true'] at plain
  obtain ⟨⟨-, some⟩, solid⟩ := plain
  subst same
  refine ⟨mt List.map_eq_nil_iff.2 some, fun c inside => ?_⟩
  obtain ⟨apart, other⟩ := solid c.toUpper (List.mem_map_of_mem inside)
  rw [isBlank_toUpper] at apart
  exact ⟨apart, fun same => other ((toUpper_eq_iff (by decide) c).2 same)⟩

/-- All that is written are words, the qualifiers too. -/
theorem IsQualified.isWord (h : IsQualified ws ps) (plain : ∀ p ∈ ps, isPlain p = true) :
    ∀ w ∈ ws, w ≠ [] ∧ ∀ c ∈ w, isBlank c = false ∧ c ≠ '(' := by
  induction h with
  | nil => simp
  | word same others ih =>
    obtain ⟨first, rest⟩ := List.forall_mem_cons.1 plain
    exact List.forall_mem_cons.2 ⟨isWord_of_map_toUpper first same, ih rest⟩
  | qualifier listed same others ih =>
    exact List.forall_mem_cons.2
      ⟨isWord_of_map_toUpper (isPlain_qualifier _ listed) same, ih plain⟩

/-- Without its qualifiers and in upper case what is written is the name. -/
theorem IsQualified.filter_upper (h : IsQualified ws ps)
    (plain : ∀ p ∈ ps, isPlain p = true ∧ isNameWord p = true) :
    (ws.map upper).filter isNameWord = ps := by
  induction h with
  | nil => rfl
  | word same others ih =>
    obtain ⟨⟨first, named⟩, rest⟩ := List.forall_mem_cons.1 plain
    rw [List.map_cons, upper_of_map_toUpper first same, List.filter_cons_of_pos named, ih rest]
  | @qualifier w q ws ps listed same others ih =>
    have qualifies : isNameWord (upper w) = false := by
      rw [upper_of_map_toUpper (isPlain_qualifier _ listed) same, isNameWord,
        String.ofList_toList, List.contains_iff_mem.2 listed]
      rfl
    rw [List.map_cons, List.filter_cons_of_neg (by simp [qualifies]), ih plain]

end Written

/-- A name as it may be written: words with blanks before each of them, an argument anywhere
between them, and blanks at the end. -/
structure Spelling where
  /-- The words up to the argument, each behind its blanks. -/
  before : List (List Char × List Char)
  /-- What stands in the parentheses, behind the blanks before them. -/
  argument : Option (List Char × List Char)
  /-- The words behind the argument, each behind its blanks. -/
  after : List (List Char × List Char)
  /-- The blanks at the end. -/
  ending : List Char

namespace Spelling

/-- An argument in its parentheses. -/
def argumentText : Option (List Char × List Char) → List Char
  | none => []
  | some (gap, inner) => gap ++ '(' :: (inner ++ [')'])

/-- The text of a name that is written so. -/
def text (s : Spelling) : List Char :=
  spaced s.before ++ (argumentText s.argument ++ (spaced s.after ++ s.ending))

/-- The words of a name that is written so, qualifiers included. -/
def written (s : Spelling) : List (List Char) :=
  (s.before ++ s.after).map (·.2)

/-- The blanks before the argument. -/
def gap (s : Spelling) : List Char :=
  (s.argument.map Prod.fst).getD []

/-- The words, each behind the blanks that stand before it without the argument.  A word behind the
argument gets the blanks before the argument as well, since they meet when the argument is gone. -/
def kept (s : Spelling) : List (List Char × List Char) :=
  match s.after with
  | [] => s.before
  | w :: ws => s.before ++ (s.gap ++ w.1, w.2) :: ws

/-- Whether a name is written so.  Qualifiers may stand anywhere among the words; nothing else may
be added. -/
structure Spells (s : Spelling) (name : String) : Prop where
  /-- The words are those of the name, with qualifiers among them. -/
  words : IsQualified s.written (Text.words name.toList)
  /-- Only blanks stand before a word. -/
  gaps : ∀ w ∈ s.before ++ s.after, isAllBlank w.1 = true
  /-- Words that follow one another have something between them. -/
  apart : AreApart s.kept.tail
  /-- Only blanks stand before the argument, and it does not close itself. -/
  argument : ∀ a ∈ s.argument, isAllBlank a.1 = true ∧ ')' ∉ a.2
  /-- Only blanks stand at the end. -/
  ending : isAllBlank s.ending = true

variable {s : Spelling} {name : String}

/-- Words without a parenthesis behind blanks hold none. -/
theorem openParen_notMem_spaced {ws : List (List Char × List Char)}
    (each : ∀ w ∈ ws, isAllBlank w.1 = true ∧ '(' ∉ w.2) : '(' ∉ spaced ws := by
  intro inside
  obtain ⟨w, there, inside⟩ := List.mem_flatMap.1 inside
  obtain ⟨blank, plain⟩ := each w there
  exact (List.mem_append.1 inside).elim (openParen_notMem_of_isAllBlank blank) plain

/-- What stands before the argument is blank, also where there is no argument. -/
theorem Spells.isAllBlank_gap (h : s.Spells name) : isAllBlank s.gap = true := by
  rw [gap]
  cases argument : s.argument with
  | none => rfl
  | some a => exact (h.argument a argument).1

/-- Without the argument the words are left, and the blanks behind them. -/
theorem exists_spaced_kept_append (h : s.Spells name) :
    ∃ blanks, isAllBlank blanks = true ∧
      spaced s.before ++ (s.gap ++ (spaced s.after ++ s.ending)) = spaced s.kept ++ blanks := by
  rw [kept]
  cases s.after with
  | nil => exact ⟨s.gap ++ s.ending, isAllBlank_append h.isAllBlank_gap h.ending, rfl⟩
  | cons w ws => exact ⟨s.ending, h.ending, by simp [spaced]⟩

/-- The words that are left are those that were written. -/
theorem map_kept : s.kept.map (·.2) = s.written := by
  rw [kept, written]
  cases s.after <;> simp

/-- The words that are left are words behind their blanks. -/
theorem Spells.isSpaced_kept (h : s.Spells name)
    (isWord : ∀ w ∈ s.written, w ≠ [] ∧ ∀ c ∈ w, isBlank c = false) : IsSpaced s.kept := by
  intro w inside
  refine ⟨?_, isWord w.2 (by rw [← map_kept]; exact List.mem_map_of_mem inside)⟩
  have gaps := h.gaps
  rw [kept] at inside
  cases after : s.after with
  | nil =>
    rw [after] at inside
    exact gaps w (List.mem_append_left _ inside)
  | cons v vs =>
    rw [after] at inside gaps
    rcases List.mem_append.1 inside with inside | inside
    · exact gaps w (List.mem_append_left _ inside)
    · rcases List.mem_cons.1 inside with rfl | inside
      · exact isAllBlank_append h.isAllBlank_gap (gaps v (by simp))
      · exact gaps w (List.mem_append_right _ (List.mem_cons_of_mem _ inside))

/-- Dropping the argument drops nothing else. -/
theorem Spells.dropArgument_text (h : s.Spells name) (plain : ∀ w ∈ s.written, '(' ∉ w) :
    dropArgument s.text = spaced s.before ++ (s.gap ++ (spaced s.after ++ s.ending)) := by
  have each : ∀ w ∈ s.before ++ s.after, isAllBlank w.1 = true ∧ '(' ∉ w.2 := fun w inside =>
    ⟨h.gaps w inside, plain w.2 (List.mem_map_of_mem inside)⟩
  have before := openParen_notMem_spaced fun w inside => each w (List.mem_append_left _ inside)
  have after := openParen_notMem_spaced fun w inside => each w (List.mem_append_right _ inside)
  have rest : '(' ∉ spaced s.after ++ s.ending := by
    simp [after, openParen_notMem_of_isAllBlank h.ending]
  rw [text, dropArgument_append before, gap]
  cases argument : s.argument with
  | none => rw [argumentText, List.nil_append, dropArgument_eq_self rest]; rfl
  | some a =>
    obtain ⟨gap, inner⟩ := a
    obtain ⟨blank, closes⟩ := h.argument (gap, inner) argument
    rw [argumentText, List.append_assoc, List.cons_append, List.append_assoc,
      List.singleton_append, dropArgument_closed (openParen_notMem_of_isAllBlank blank) closes]
    rfl

/-- The words of a text are those that are written in it, without the argument. -/
theorem words_dropArgument_text (h : s.Spells name)
    (isWord : ∀ w ∈ s.written, w ≠ [] ∧ ∀ c ∈ w, isBlank c = false ∧ c ≠ '(') :
    words (dropArgument s.text) = s.written := by
  have plain : ∀ w ∈ s.written, '(' ∉ w := fun w inside there => ((isWord w inside).2 _ there).2 rfl
  have solid : IsSpaced s.kept := h.isSpaced_kept fun w inside =>
    ⟨(isWord w inside).1, fun c there => ((isWord w inside).2 c there).1⟩
  obtain ⟨blanks, blank, whole⟩ := exists_spaced_kept_append h
  rw [h.dropArgument_text plain, whole,
    words_spaced_append solid h.apart (endsWord_of_isAllBlank blank), words_of_isAllBlank blank,
    List.append_nil, map_kept]

/-- **A listed name is found however it is written.** The list is searched with the normal form, and
that is the name itself. -/
theorem lookup?_text {entry : ValueType × List String} (listed : entry ∈ listed)
    (known : name ∈ entry.2) (h : s.Spells name) :
    lookup? (normalize s.text) = some entry.1 := by
  obtain ⟨joined, plain⟩ := listed_words entry listed name known
  have isWord := h.words.isWord fun p inside => (plain p inside).1
  rw [normalize_eq, words_dropArgument_text h isWord, h.words.filter_upper plain, joined,
    lookup?_listed listed known]

end Spelling

/-- **Known names are found through all decorations.**  A listed name has its type in any case
of its letters, with any blanks around it and between its words, with an argument after one of
its words and with qualifiers before, between and behind them.  And for any name at all, neither
the case of its ASCII letters nor blanks around it nor the lengths of its runs of blanks matter. -/
theorem ofNative_decorated :
    (∀ entry ∈ listed, ∀ name ∈ entry.2, ∀ s : Spelling, s.Spells name →
      ValueType.ofNative (String.ofList s.text) = entry.1) ∧
    (∀ name name' : String, name.toList.map Char.toUpper = name'.toList.map Char.toUpper →
      ValueType.ofNative name = ValueType.ofNative name') ∧
    (∀ before name after : String, isAllBlank before.toList = true →
      isAllBlank after.toList = true →
      ValueType.ofNative (before ++ name ++ after) = ValueType.ofNative name) ∧
    ∀ name : String,
      ValueType.ofNative (String.ofList (collapse name.toList)) = ValueType.ofNative name := by
  -- A name in a known spelling is found without a look into parentheses.  The other three parts
  -- hold of unknown names too, so they have to go along with the search through the wrappers.
  refine ⟨?decorated, ?case, ?surrounded, ?collapsed⟩
  case decorated =>
    intro entry listed name known s spells
    refine ofNative_of_lookup? ?_
    rw [String.toList_ofList]
    exact Spelling.lookup?_text listed known spells
  case case =>
    intro name name' same
    rw [ValueType.ofNative, ← harmless_toUpper.valueType_eq, same, harmless_toUpper.valueType_eq]
    rfl
  case surrounded =>
    intro before name after blank blank'
    have same : normalize (before.toList ++ (name.toList ++ after.toList)) =
        normalize name.toList := by
      rw [normalize_eq, normalize_eq, words_dropArgument_surrounded blank blank']
    rw [ValueType.ofNative, String.toList_append, String.toList_append, List.append_assoc,
      valueType_eq, same, wrapped?_surrounded blank blank', ← valueType_eq]
    rfl
  case collapsed =>
    intro name
    rw [ValueType.ofNative, String.toList_ofList, harmless_collapse.valueType_eq]
    rfl

/-- Two words in other letters, with an argument and qualifiers; and names that differ in the
case of a letter, in the blanks around them and in the blanks between their words. -/
theorem ofNative_decorated_double :
    ValueType.ofNative "\tunsigned Double (10, 2)preCision zerofill " = .numeric ∧
    ValueType.ofNative "Nullable(Int32)" = ValueType.ofNative "NULLABLE(iNT32)" ∧
    ValueType.ofNative (" " ++ "Nullable(Int32)" ++ "\n") = ValueType.ofNative "Nullable(Int32)" ∧
    ValueType.ofNative "Nullable( double precision)" =
      ValueType.ofNative "Nullable( \tdouble  precision)" := by
  obtain ⟨decorated, letters, surrounded, collapsed⟩ := ofNative_decorated
  -- The name with everything that may be put around it: an argument after its first word,
  -- qualifiers before and behind, blanks of both kinds.
  let spelling : Spelling :=
    { before := [("\t".toList, "unsigned".toList), (" ".toList, "Double".toList)]
      argument := some (" ".toList, "10, 2".toList)
      after := [([], "preCision".toList), (" ".toList, "zerofill".toList)]
      ending := " ".toList }
  have spells : spelling.Spells "DOUBLE PRECISION" :=
    { words := .qualifier (q := "UNSIGNED") (by decide) (by decide) <|
        .word (by decide) <| .word (by decide) <|
        .qualifier (q := "ZEROFILL") (by decide) (by decide) .nil
      gaps := by decide
      apart := by decide
      argument := by decide
      ending := by decide }
  refine ⟨?_, letters _ _ (by decide), surrounded _ _ _ (by decide) (by decide), ?_⟩
  · exact decorated _ (List.mem_cons_self ..) "DOUBLE PRECISION" (by decide +kernel) spelling spells
  · exact collapsed "Nullable( \tdouble  precision)"

end NativeType
end PagedQuery
