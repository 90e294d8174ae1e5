/-
# Blanks and words

The words of a text are what its blanks leave of it.  A blank ends a word wherever it stands
(`words_append_blank`), so it does not matter how many blanks there are, or which.  A text has the
same words with blanks around it and without, and the same when it is `collapse`d to one space for
each run of blanks; and words that are written in a row, each behind blanks (`spaced`), are read
as these words.

Trimming takes blanks only, and what is left begins and ends with none.  Statements about a text
that goes on are made with what it goes on with: a text counts for what is before it by its words
and by whether a blank comes first, and by nothing else (`words_append_congr`).
-/

import Mathlib.Data.List.Basic
import Mathlib.Data.List.TakeWhile
import PagedQuery.Text.Blank

namespace PagedQuery
namespace Text

/-! ### Trimming -/

section Trimming

variable {cs : List Char} {c : Char}

/-- A blank text has blanks only. -/
theorem isAllBlank_iff : isAllBlank cs = true ↔ ∀ c ∈ cs, isBlank c = true :=
  List.all_eq_true

/-- No digit is a blank. -/
theorem isBlank_eq_false_of_isDigit (digit : c.isDigit = true) : isBlank c = false := by
  obtain ⟨low, high⟩ : 48 ≤ c.toNat ∧ c.toNat ≤ 57 := by
    simpa [Char.isDigit, UInt32.le_iff_toNat_le] using digit
  rw [Bool.eq_false_iff, isBlank]
  grind

/-- Blanks and blanks are blanks. -/
theorem isAllBlank_append {a b : List Char} (before : isAllBlank a = true)
    (after : isAllBlank b = true) : isAllBlank (a ++ b) = true := by
  rw [isAllBlank, List.all_append, Bool.and_eq_true]
  exact ⟨before, after⟩

/-- A character that is no blank ends a text, whatever blanks follow it. -/
theorem trimEnd_append_blanks (cs : List Char) {b : List Char} (solid : isBlank c = false)
    (blank : isAllBlank b = true) : trimEnd (cs ++ c :: b) = cs ++ [c] := by
  have passed : ∀ d ∈ b.reverse, isBlank d = true := fun d inside =>
    isAllBlank_iff.1 blank d (List.mem_reverse.1 inside)
  rw [trimEnd, List.reverse_append, List.reverse_cons, List.append_assoc,
    List.dropWhile_append_of_pos passed, List.singleton_append,
    List.dropWhile_cons_of_neg (by simp [solid]), List.reverse_cons, List.reverse_reverse]

/-- A text that ends with no blank keeps its end. -/
theorem trimEnd_append_singleton (cs : List Char) (solid : isBlank c = false) :
    trimEnd (cs ++ [c]) = cs ++ [c] :=
  trimEnd_append_blanks cs solid rfl

/-- A text is blank, or it has a last character that is not. -/
theorem isAllBlank_or_exists_last (cs : List Char) :
    isAllBlank cs = true ∨
      ∃ before c b, cs = before ++ c :: b ∧ isBlank c = false ∧ isAllBlank b = true := by
  induction cs with
  | nil => exact .inl rfl
  | cons d cs ih =>
    rcases ih with blank | ⟨before, c, b, rfl, solid, blank⟩
    · cases first : isBlank d with
      | true => exact .inl (by rw [isAllBlank, List.all_cons, first]; exact blank)
      | false => exact .inr ⟨[], d, cs, rfl, first, blank⟩
    · exact .inr ⟨d :: before, c, b, rfl, solid, blank⟩

/-- Nothing is left of blanks. -/
theorem trimEnd_eq_nil (blank : isAllBlank cs = true) : trimEnd cs = [] := by
  have passed : ∀ d ∈ cs.reverse, isBlank d = true := fun d inside =>
    isAllBlank_iff.1 blank d (List.mem_reverse.1 inside)
  rw [trimEnd, List.dropWhile_eq_nil_iff.2 passed, List.reverse_nil]

/-- What is trimmed at the end of a text is blank. -/
theorem exists_trimEnd_append (cs : List Char) :
    ∃ b, isAllBlank b = true ∧ cs = trimEnd cs ++ b := by
  rcases isAllBlank_or_exists_last cs with blank | ⟨before, c, b, rfl, solid, blank⟩
  · exact ⟨cs, blank, by rw [trimEnd_eq_nil blank, List.nil_append]⟩
  · exact ⟨b, blank, by rw [trimEnd_append_blanks before solid blank, List.append_assoc]; rfl⟩

/-- What is trimmed around a text is blank. -/
theorem exists_append_trim_append (cs : List Char) :
    ∃ a b, isAllBlank a = true ∧ isAllBlank b = true ∧ cs = a ++ (trim cs ++ b) := by
  obtain ⟨b, after, whole⟩ := exists_trimEnd_append (trimStart cs)
  refine ⟨cs.takeWhile isBlank, b, List.all_takeWhile, after, ?_⟩
  rw [trim, ← whole, trimStart, List.takeWhile_append_dropWhile]

/-- A text that starts with no blank keeps its start. -/
theorem trimStart_eq_self (solid : ∀ c ∈ cs.head?, isBlank c = false) : trimStart cs = cs := by
  cases cs with
  | nil => rfl
  | cons c cs => exact List.dropWhile_cons_of_neg (by simp [solid c rfl])

/-- A text without blanks is left as it is. -/
theorem trim_eq_self (solid : ∀ c ∈ cs, isBlank c = false) : trim cs = cs := by
  rw [trim, trimStart_eq_self fun c first => solid c (List.mem_of_mem_head? first)]
  rcases cs.eq_nil_or_concat' with rfl | ⟨before, c, rfl⟩
  · rfl
  · exact trimEnd_append_singleton before (solid c (by simp))

/-- No character but blanks is lost in front. -/
theorem mem_trimStart (inside : c ∈ cs) (solid : isBlank c = false) : c ∈ trimStart cs := by
  rw [← List.takeWhile_append_dropWhile (p := isBlank) (l := cs), List.mem_append] at inside
  refine inside.resolve_left fun blank => ?_
  rw [List.all_eq_true.1 List.all_takeWhile c blank] at solid
  cases solid

/-- Trimming takes blanks only. -/
theorem mem_trim (inside : c ∈ cs) (solid : isBlank c = false) : c ∈ trim cs := by
  have kept := mem_trimStart (List.mem_reverse.2 (mem_trimStart inside solid)) solid
  exact List.mem_reverse.2 kept

/-- A text without its blanks.  Collapsing and trimming leave it as it is. -/
def solidPart (cs : List Char) : List Char :=
  cs.filter fun c => !isBlank c

/-- A text without a solid part is blank. -/
theorem solidPart_eq_nil_iff : solidPart cs = [] ↔ isAllBlank cs = true := by
  simp [solidPart, isAllBlank]

/-- The solid part of a text is that of its parts. -/
theorem solidPart_append (a b : List Char) : solidPart (a ++ b) = solidPart a ++ solidPart b :=
  List.filter_append ..

/-- Exactly the blanks are lost. -/
theorem mem_solidPart_iff (solid : isBlank c = false) : c ∈ solidPart cs ↔ c ∈ cs := by
  simp [solidPart, List.mem_filter, solid]

/-- The last character of a trimmed text is the last one that is no blank. -/
theorem getLast?_trimEnd (cs : List Char) : (trimEnd cs).getLast? = (solidPart cs).getLast? := by
  rcases isAllBlank_or_exists_last cs with blank | ⟨before, c, b, rfl, solid, blank⟩
  · rw [trimEnd_eq_nil blank, solidPart_eq_nil_iff.2 blank]
  · have last : solidPart (before ++ c :: b) = solidPart before ++ [c] := by
      rw [solidPart_append, ← List.singleton_append, solidPart_append,
        solidPart_eq_nil_iff.2 blank, List.append_nil]
      simp [solidPart, solid]
    rw [trimEnd_append_blanks before solid blank, last, List.getLast?_concat, List.getLast?_concat]

end Trimming

/-! ### Words -/

section Words

variable {cs x y y' : List Char} {c : Char}

/-- Whether a text starts with a blank. -/
def startsBlank (cs : List Char) : Bool :=
  cs.head?.any isBlank

/-- Whether a text does not go on with a word where it starts: it is empty, or starts with a
blank. -/
def EndsWord (cs : List Char) : Prop :=
  cs = [] ∨ startsBlank cs = true

/-- The empty text has no words. -/
theorem words_nil : words [] = [] :=
  rfl

/-- A blank in front is no part of a word. -/
theorem words_cons_blank (blank : isBlank c = true) (cs : List Char) :
    words (c :: cs) = words cs := by
  rw [words.eq_def]
  exact if_pos blank

/-- A character goes in front of the first word, unless a blank comes between them. -/
theorem words_cons_solid (solid : isBlank c = false) (cs : List Char) :
    words (c :: cs) = if startsBlank cs then [c] :: words cs else
      (c :: (words cs).headD []) :: (words cs).tail := by
  rw [words.eq_def]
  dsimp only
  rw [if_neg (by simp [solid])]
  cases cs with
  | nil => rfl
  | cons d ds =>
    cases blank : isBlank d with
    | true => simp [startsBlank, blank]
    | false =>
      simp only [startsBlank, List.head?_cons, Option.any_some, blank, Bool.false_eq_true,
        if_false]
      cases words (d :: ds) <;> rfl

/-- A character that is no blank belongs to some word. -/
theorem words_ne_nil (solid : isBlank c = false) (cs : List Char) : words (c :: cs) ≠ [] := by
  rw [words_cons_solid solid]
  split <;> exact List.cons_ne_nil _ _

/-- What follows a text counts by its words and by whether a blank comes first.  Texts that agree in
both can be exchanged behind any text. -/
theorem words_append_congr (same : words y = words y') (start : startsBlank y = startsBlank y') :
    words (x ++ y) = words (x ++ y') := by
  induction x with
  | nil => exact same
  | cons c x ih =>
    have start' : startsBlank (x ++ y) = startsBlank (x ++ y') := by
      cases x with
      | nil => exact start
      | cons d x => rfl
    rw [List.cons_append, List.cons_append]
    cases blank : isBlank c with
    | true => rw [words_cons_blank blank, words_cons_blank blank, ih]
    | false => rw [words_cons_solid blank, words_cons_solid blank, ih, start']

/-- **A blank ends a word.**  The texts before it and behind it have their words to themselves; all
other facts about words in a row come from this one. -/
theorem words_append_blank (blank : isBlank c = true) (x y : List Char) :
    words (x ++ c :: y) = words x ++ words y := by
  induction x with
  | nil => exact words_cons_blank blank y
  | cons d x ih =>
    rw [List.cons_append]
    cases solid : isBlank d with
    | true => rw [words_cons_blank solid, words_cons_blank solid, ih]
    | false =>
      rw [words_cons_solid solid, words_cons_solid solid, ih]
      -- The last character before the blank ends a word either way; before that the next
      -- character decides, and it is the same in both texts.
      cases x with
      | nil =>
        have start : startsBlank ([] ++ c :: y) = true := blank
        rw [if_pos start]
        rfl
      | cons e x =>
        have same : startsBlank (e :: x ++ c :: y) = startsBlank (e :: x) := rfl
        rw [same]
        split
        · rfl
        · next other =>
          have first := words_ne_nil (c := e) (by simpa [startsBlank] using other) x
          obtain ⟨w, ws, split⟩ := List.exists_cons_of_ne_nil first
          rw [split]
          rfl

/-- The words of two texts are those of both, if no word runs over the seam. -/
theorem words_append (x : List Char) (apart : EndsWord y) : words (x ++ y) = words x ++ words y := by
  cases y with
  | nil => rw [List.append_nil, words_nil, List.append_nil]
  | cons c y =>
    have blank : isBlank c = true := by simpa [EndsWord, startsBlank] using apart
    rw [words_append_blank blank, words_cons_blank blank]

/-- Blanks have no words. -/
theorem words_of_isAllBlank (blank : isAllBlank cs = true) : words cs = [] := by
  induction cs with
  | nil => rfl
  | cons c cs ih =>
    rw [isAllBlank, List.all_cons, Bool.and_eq_true] at blank
    rw [words_cons_blank blank.1, ih blank.2]

/-- Blanks end a word, and so does the end of the text. -/
theorem endsWord_of_isAllBlank (blank : isAllBlank cs = true) : EndsWord cs := by
  cases cs with
  | nil => exact .inl rfl
  | cons c cs => exact .inr (isAllBlank_iff.1 blank c (List.mem_cons_self ..))

/-- Blanks in front of a text end a word, or it is the text itself that does. -/
theorem endsWord_append {b : List Char} (blank : isAllBlank b = true) (h : b ≠ [] ∨ EndsWord cs) :
    EndsWord (b ++ cs) := by
  cases b with
  | nil => exact h.resolve_left fun none => none rfl
  | cons c b => exact .inr (isAllBlank_iff.1 blank c (List.mem_cons_self ..))

/-- Blanks after a text are no words of it. -/
theorem words_append_isAllBlank (x : List Char) (blank : isAllBlank y = true) :
    words (x ++ y) = words x := by
  rw [words_append x (endsWord_of_isAllBlank blank), words_of_isAllBlank blank, List.append_nil]

/-- Blanks before a text are no words of it. -/
theorem words_isAllBlank_append (blank : isAllBlank x = true) (y : List Char) :
    words (x ++ y) = words y := by
  induction x with
  | nil => rfl
  | cons c x ih =>
    rw [isAllBlank, List.all_cons, Bool.and_eq_true] at blank
    rw [List.cons_append, words_cons_blank blank.1, ih blank.2]

/-- A text without blanks is one word. -/
theorem words_of_solid (some : cs ≠ []) (solid : ∀ c ∈ cs, isBlank c = false) :
    words cs = [cs] := by
  induction cs with
  | nil => exact absurd rfl some
  | cons c cs ih =>
    obtain ⟨first, others⟩ := List.forall_mem_cons.1 solid
    rw [words_cons_solid first]
    cases cs with
    | nil => rfl
    | cons d ds =>
      have next : startsBlank (d :: ds) = false := others d (List.mem_cons_self ..)
      rw [next, ih (List.cons_ne_nil d ds) others]
      rfl

/-- The words of a text hold all of it but the blanks. -/
theorem flatten_words (cs : List Char) : (words cs).flatten = solidPart cs := by
  induction cs with
  | nil => rfl
  | cons c cs ih =>
    cases blank : isBlank c with
    | true =>
      rw [words_cons_blank blank, ih, solidPart, solidPart, List.filter_cons_of_neg (by simp [blank])]
    | false =>
      rw [words_cons_solid blank, solidPart, List.filter_cons_of_pos (by simp [blank]),
        ← solidPart, ← ih]
      split
      · rfl
      · cases words cs <;> rfl

/-- Texts are built of blanks and of words that blanks end.  An induction on characters would stop
inside of words, about which there is nothing to say. -/
theorem words_induction {motive : List Char → Prop} (nil : motive [])
    (blank : ∀ c cs, isBlank c = true → motive cs → motive (c :: cs))
    (word : ∀ w rest, w ≠ [] → (∀ c ∈ w, isBlank c = false) → EndsWord rest → motive rest →
      motive (w ++ rest)) (cs : List Char) : motive cs := by
  -- On the length: a word is taken off as a whole, up to the first blank behind it.
  induction size : cs.length using Nat.strongRecOn generalizing cs with
  | _ n ih =>
    cases cs with
    | nil => exact nil
    | cons c cs =>
      rw [List.length_cons] at size
      cases first : isBlank c with
      | true => exact blank c cs first (ih cs.length (by omega) cs rfl)
      | false =>
        have rest := List.dropWhile_sublist (l := cs) (fun d => !isBlank d)
        have shorter := rest.length_le
        have whole := List.takeWhile_append_dropWhile (p := fun d => !isBlank d) (l := cs)
        rw [← whole, ← List.cons_append]
        refine word _ _ (List.cons_ne_nil _ _) ?_ ?_ (ih _ (by omega) _ rfl)
        · refine List.forall_mem_cons.2 ⟨first, fun d inside => ?_⟩
          simpa using List.all_eq_true.1 List.all_takeWhile d inside
        · have stops := List.head?_dropWhile_not (fun d => !isBlank d) cs
          cases after : cs.dropWhile fun d => !isBlank d with
          | nil => exact .inl rfl
          | cons d ds =>
            rw [after] at stops
            exact .inr (by simpa [startsBlank] using stops)

end Words

/-! ### Runs of blanks -/

section Collapse

variable {cs : List Char} {c : Char}

/-- A text with one space for each of its runs of blanks.  Blanks around the text are collapsed as
well, not dropped. -/
def collapse : List Char → List Char
  | [] => []
  | c :: cs =>
    if isBlank c then
      if startsBlank cs then collapse cs else ' ' :: collapse cs
    else c :: collapse cs

/-- Of a run of blanks the last one becomes the space. -/
theorem collapse_cons_blank (blank : isBlank c = true) (cs : List Char) :
    collapse (c :: cs) = if startsBlank cs then collapse cs else ' ' :: collapse cs := by
  rw [collapse, if_pos blank]

/-- A character that is no blank is kept. -/
theorem collapse_cons_solid (solid : isBlank c = false) (cs : List Char) :
    collapse (c :: cs) = c :: collapse cs := by
  rw [collapse, if_neg (by simp [solid])]

/-- A character that is no blank keeps apart what is before it and what is behind it. -/
theorem collapse_append_cons (solid : isBlank c = false) (a b : List Char) :
    collapse (a ++ c :: b) = collapse a ++ c :: collapse b := by
  induction a with
  | nil => exact collapse_cons_solid solid b
  | cons d a ih =>
    rw [List.cons_append]
    cases blank : isBlank d with
    | false => rw [collapse_cons_solid blank, collapse_cons_solid blank, ih, List.cons_append]
    | true =>
      have start : startsBlank (a ++ c :: b) = startsBlank a := by
        cases a with
        | nil => exact solid
        | cons e a => rfl
      rw [collapse_cons_blank blank, collapse_cons_blank blank, ih, start]
      split <;> rfl

/-- A collapsed text starts as the text does, with a space for a blank. -/
theorem head?_collapse (cs : List Char) :
    (collapse cs).head? = cs.head?.map fun c => if isBlank c then ' ' else c := by
  induction cs with
  | nil => rfl
  | cons c cs ih =>
    cases blank : isBlank c with
    | false => rw [collapse_cons_solid blank]; simp [blank]
    | true =>
      rw [collapse_cons_blank blank]
      split
      -- The blank is dropped, and the one behind it becomes the space.
      · next more =>
        cases cs with
        | nil => cases more
        | cons d cs =>
          have next : isBlank d = true := more
          rw [ih]
          simp [blank, next]
      · simp [blank]

/-- **Collapsing runs of blanks changes no words**, whatever follows.  What follows is there for the
induction: the text that is left may go on with a word. -/
theorem words_collapse_append (a t : List Char) : words (collapse a ++ t) = words (a ++ t) := by
  induction a with
  | nil => rfl
  | cons c a ih =>
    rw [List.cons_append]
    cases blank : isBlank c with
    | true =>
      rw [collapse_cons_blank blank, words_cons_blank blank]
      split
      · exact ih
      · rw [List.cons_append, words_cons_blank (by rfl), ih]
    | false =>
      -- Whether the next word begins here is seen from one character, which collapsing leaves a
      -- blank or solid as it was.
      have start : startsBlank (collapse a ++ t) = startsBlank (a ++ t) := by
        rw [startsBlank, startsBlank, List.head?_append, List.head?_append, head?_collapse]
        cases a with
        | nil => rfl
        | cons d a =>
          cases next : isBlank d with
          | true => simpa [next] using show isBlank ' ' = true from rfl
          | false => simp [next]
      rw [collapse_cons_solid blank]
      exact words_append_congr (x := [c]) ih start

/-- A collapsed text has the words of the text. -/
theorem words_collapse (cs : List Char) : words (collapse cs) = words cs := by
  simpa using words_collapse_append cs []

/-- It starts with a blank if the text does. -/
theorem startsBlank_collapse (cs : List Char) : startsBlank (collapse cs) = startsBlank cs := by
  rw [startsBlank, startsBlank, head?_collapse]
  cases cs with
  | nil => rfl
  | cons c cs =>
    cases blank : isBlank c with
    | true => simpa [blank] using show isBlank ' ' = true from rfl
    | false => simp [blank]

/-- It has the same solid part. -/
theorem solidPart_collapse (cs : List Char) : solidPart (collapse cs) = solidPart cs := by
  rw [← flatten_words, words_collapse, flatten_words]

/-- It is blank if the text is. -/
theorem isAllBlank_collapse (blank : isAllBlank cs = true) : isAllBlank (collapse cs) = true := by
  rw [← solidPart_eq_nil_iff, solidPart_collapse, solidPart_eq_nil_iff.2 blank]

/-- It does not matter whether a text is trimmed before or after its blanks are collapsed. -/
theorem trim_collapse (cs : List Char) : trim (collapse cs) = collapse (trim cs) := by
  -- At the start first; what is left begins with no blank and only its end is to be trimmed.
  have start : trimStart (collapse cs) = collapse (trimStart cs) := by
    induction cs with
    | nil => rfl
    | cons c cs ih =>
      cases blank : isBlank c with
      | false =>
        have kept (ds : List Char) : trimStart (c :: ds) = c :: ds :=
          trimStart_eq_self (by simpa using blank)
        rw [kept, collapse_cons_solid blank, kept]
      | true =>
        have passed : trimStart (c :: cs) = trimStart cs := List.dropWhile_cons_of_pos blank
        rw [collapse_cons_blank blank, passed, ← ih]
        split
        · rfl
        · exact List.dropWhile_cons_of_pos rfl
  rw [trim, trim, start]
  generalize trimStart cs = ds
  -- At the end it is the last character that is no blank that counts, and collapsing keeps it.
  rcases isAllBlank_or_exists_last ds with blank | ⟨before, c, b, rfl, solid, blank⟩
  · rw [trimEnd_eq_nil blank, trimEnd_eq_nil (isAllBlank_collapse blank)]
    rfl
  · rw [collapse_append_cons solid, trimEnd_append_blanks _ solid (isAllBlank_collapse blank),
      trimEnd_append_blanks _ solid blank, collapse_append_cons solid]
    rfl

/-- A run of blanks leaves a space behind. -/
theorem space_mem_collapse (inside : c ∈ cs) (blank : isBlank c = true) : ' ' ∈ collapse cs := by
  induction cs with
  | nil => cases inside
  | cons d cs ih =>
    cases first : isBlank d with
    | false =>
      rw [collapse_cons_solid first]
      rcases List.mem_cons.1 inside with rfl | later
      · rw [blank] at first
        cases first
      · exact List.mem_cons_of_mem d (ih later)
    | true =>
      rw [collapse_cons_blank first]
      split
      -- This blank is dropped in favour of the one behind it.
      · next more =>
        cases cs with
        | nil => cases more
        | cons e cs =>
          have start : ' ' ∈ (collapse (e :: cs)).head? := by
            rw [head?_collapse]
            simpa using fun solid => absurd more (by simp [startsBlank, solid])
          exact List.mem_of_mem_head? start
      · exact List.mem_cons_self ..

/-- Without blanks there is nothing to collapse. -/
theorem collapse_eq_self (solid : ∀ c ∈ cs, isBlank c = false) : collapse cs = cs := by
  induction cs with
  | nil => rfl
  | cons c cs ih =>
    obtain ⟨first, others⟩ := List.forall_mem_cons.1 solid
    rw [collapse_cons_solid first, ih others]

end Collapse

/-! ### Words in a row -/

/-- Words in a row, each with the blanks before it. -/
def spaced (ws : List (List Char × List Char)) : List Char :=
  ws.flatMap fun w => w.1 ++ w.2

/-- Whether the blanks of words in a row are blanks and the words have none.  The blanks may be
missing; where they must not is said by `AreApart`. -/
def IsSpaced (ws : List (List Char × List Char)) : Prop :=
  ∀ w ∈ ws, isAllBlank w.1 = true ∧ w.2 ≠ [] ∧ ∀ c ∈ w.2, isBlank c = false

/-- Whether there is a blank before each of the words. -/
def AreApart (ws : List (List Char × List Char)) : Prop :=
  ∀ w ∈ ws, w.1 ≠ []

instance (ws : List (List Char × List Char)) : Decidable (AreApart ws) :=
  inferInstanceAs (Decidable (∀ w ∈ ws, w.1 ≠ []))

/-- Words that stand behind blanks end the word before them. -/
theorem endsWord_spaced_append {ws : List (List Char × List Char)} {rest : List Char}
    (written : IsSpaced ws) (apart : AreApart ws) (ends : EndsWord rest) :
    EndsWord (spaced ws ++ rest) := by
  cases ws with
  | nil => exact ends
  | cons w ws =>
    rw [spaced, List.flatMap_cons, List.append_assoc, List.append_assoc]
    exact endsWord_append (written w (List.mem_cons_self ..)).1
      (.inl (apart w (List.mem_cons_self ..)))

/-- **Words in a row are read as they are**, if blanks keep them apart.  Nothing has to stand in
front of the first one. -/
theorem words_spaced_append {ws : List (List Char × List Char)} {rest : List Char}
    (written : IsSpaced ws) (apart : AreApart ws.tail) (ends : EndsWord rest) :
    words (spaced ws ++ rest) = ws.map (·.2) ++ words rest := by
  induction ws with
  | nil => rfl
  | cons w ws ih =>
    obtain ⟨⟨blank, some, solid⟩, others⟩ := List.forall_mem_cons.1 written
    have next := endsWord_spaced_append others apart ends
    have tail : AreApart ws.tail := fun v inside => apart v (List.mem_of_mem_tail inside)
    rw [spaced, List.flatMap_cons, ← spaced, List.append_assoc, List.append_assoc,
      words_isAllBlank_append blank, words_append w.2 next, words_of_solid some solid,
      ih others tail, List.map_cons]
    rfl

/-! ### Joined parts -/

/-- The parts of a joined text hold all of it but the separators. -/
theorem mem_joinWith_iff {separator : String} {parts : List (List Char)} {c : Char}
    (other : c ∉ separator.toList) :
    c ∈ joinWith separator parts ↔ ∃ part ∈ parts, c ∈ part := by
  rw [joinWith]
  induction parts with
  | nil => simp
  | cons part parts ih =>
    cases parts with
    | nil => simp
    | cons next parts =>
      rw [List.intercalate_cons_cons, List.mem_append, List.mem_append, ih]
      simp [other]

end Text
end PagedQuery
