/-
# Texts in upper case

Most letters have an upper case, some one of several letters, and no letter has one that holds a
mark, a digit or a blank.  So what is found by marks and blanks is found in upper case too: an
uncased character stands in the same places (`mem_upper_iff`), the part before it is the part
before it in upper case (`takeWhile_upper`), and words become their upper cases (`words_upper`).
The case of ASCII letters can no longer be told (`upper_map_toUpper`).

A character is known to be uncased by looking at the tables: it is its own upper case, and no run
and no sequence of them leads to it (`isUncased`).  That is a computation on the tables for one
character, so the facts about marks and blanks are decided; only the step from the tables to all
characters is proved (`mem_upperChar_iff`).
-/

import PagedQuery.Proofs.Text.Words
import PagedQuery.Text.CaseMap

namespace PagedQuery
namespace Text

/-- Texts are put in upper case part by part. -/
theorem upper_append (cs ds : List Char) : upper (cs ++ ds) = upper cs ++ upper ds :=
  List.flatMap_append

/-- Texts are put in upper case character by character. -/
theorem upper_cons (c : Char) (cs : List Char) : upper (c :: cs) = upperChar c ++ upper cs :=
  List.flatMap_cons

/-- What holds of all characters below a code point is checked code point by code point. -/
theorem of_forall_code {bound : Nat} {P : Char → Prop} (each : ∀ n < bound, P (Char.ofNat n))
    {c : Char} (small : c.toNat < bound) : P c := by
  have holds := each c.toNat small
  rwa [Char.ofNat_toNat] at holds

/-- No letter is a blank. -/
theorem isBlank_eq_false_of_isAlpha {c : Char} (letter : c.isAlpha = true) :
    isBlank c = false := by
  have small : c.toNat < 0x80 := by
    rcases Bool.or_eq_true_iff.1 letter with upper | lower
    · have last : c.val ≤ 'Z'.val := (of_decide_eq_true upper).2
      exact Nat.lt_of_le_of_lt last (by decide)
    · have last : c.val ≤ 'z'.val := of_decide_eq_true (Bool.and_eq_true_iff.1 lower).2
      exact Nat.lt_of_le_of_lt last (by decide)
  exact of_forall_code (P := fun c => c.isAlpha = true → isBlank c = false) (by decide) small letter

/-- Digits have no case. -/
theorem upper_digits {cs : List Char} (digits : ∀ c ∈ cs, c.isDigit = true) : upper cs = cs := by
  have each : ∀ c ∈ cs, upperChar c = [c] := fun c inside => by
    have digit := digits c inside
    simp only [Char.isDigit, Bool.and_eq_true, decide_eq_true_eq] at digit
    have small : c.toNat < 0x3A := Nat.lt_succ_of_le digit.2
    exact of_forall_code (P := fun c => upperChar c = [c]) (by decide) small
  rw [upper, List.flatMap_congr each, List.flatMap_singleton']

/-- The character of a code point has it, or is the null character if there is none. -/
theorem toNat_ofNat (n : Nat) : (Char.ofNat n).toNat = n ∨ (Char.ofNat n).toNat = 0 := by
  by_cases valid : n.isValidChar
  · rw [Char.ofNat, dif_pos valid]
    exact .inl rfl
  · rw [Char.ofNat, dif_neg valid]
    exact .inr rfl

/-! ### Characters without case -/

/-- Whether a code point lies where the tables lead.  More points than the tables reach may pass,
which does no harm. -/
def isCapital (code : Nat) : Bool :=
  (upperRuns.any fun run =>
    decide (run.first + run.shift ≤ code) && decide (code ≤ run.last + run.shift)) ||
    upperSequences.any fun entry => entry.2.contains code

/-- Whether a character is its own upper case and no table leads to it.  It can be computed for
every character that matters here. -/
def isUncased (c : Char) : Bool :=
  upperChar c == [c] && !isCapital c.toNat && c.toNat != 0

section Uncased

variable {c m : Char} {cs : List Char}

/-- Where a run of the table leads is a capital.  A code point without a character leads to the null
character, which is therefore left out. -/
theorem isCapital_of_image? {run : CaseRun} (listed : run ∈ upperRuns) {code : Nat}
    (mapped : run.image? code = some m) (some : m.toNat ≠ 0) : isCapital m.toNat = true := by
  rw [CaseRun.image?] at mapped
  split at mapped
  · next inside =>
    obtain rfl := Option.some.inj mapped
    have valid := (toNat_ofNat (code + run.shift).toNat).resolve_right some
    rw [isCapital, Bool.or_eq_true]
    refine .inl (List.any_eq_true.2 ⟨run, listed, ?_⟩)
    rw [Bool.and_eq_true, decide_eq_true_iff, decide_eq_true_iff, valid]
    have positive : 0 < (code + run.shift).toNat := by omega
    omega
  · cases mapped

/-- **A character without case is the upper case of itself only.**  So marks, digits and blanks stay
where they are in the upper case of a text. -/
theorem mem_upperChar_iff (uncased : isUncased m = true) : m ∈ upperChar c ↔ c = m := by
  simp only [isUncased, Bool.and_eq_true, beq_iff_eq, Bool.not_eq_true', bne_iff_ne] at uncased
  obtain ⟨⟨own, plain⟩, some⟩ := uncased
  constructor
  · intro image
    rw [upperChar] at image
    split at image
    -- An ASCII character.
    · next small =>
      obtain rfl := List.mem_singleton.1 image
      have ascii : c.toUpper = c ∨ isCapital c.toUpper.toNat = true :=
        of_forall_code (P := fun c => c.toUpper = c ∨ isCapital c.toUpper.toNat = true)
          (by decide +kernel) small
      rw [plain] at ascii
      exact (ascii.resolve_right Bool.false_ne_true).symm
    rw [mapChar] at image
    split at image
    -- A letter whose other case is listed by itself.
    · next codes found =>
      obtain ⟨before, after, listed, -⟩ := List.lookup_eq_some_iff.1 found
      obtain ⟨code, inside, rfl⟩ := List.mem_map.1 image
      rw [(toNat_ofNat code).resolve_right some] at plain
      have capital : isCapital code = true := Bool.or_eq_true_iff.2 <| .inr <|
        List.any_eq_true.2 ⟨(c.toNat, codes), by simp [listed], List.contains_iff_mem.2 inside⟩
      rw [capital] at plain
      cases plain
    -- A letter of a run, or a character without another case.
    · cases found : upperRuns.findSome? (·.image? c.toNat) with
      | none =>
        rw [found] at image
        exact (List.mem_singleton.1 image).symm
      | some d =>
        rw [found] at image
        obtain rfl := List.mem_singleton.1 image
        obtain ⟨run, listed, mapped⟩ := List.exists_of_findSome?_eq_some found
        rw [isCapital_of_image? listed mapped some] at plain
        cases plain
  · rintro rfl
    rw [own]
    exact List.mem_singleton_self c

/-- A character without case is left as it is. -/
theorem upperChar_of_isUncased (uncased : isUncased m = true) : upperChar m = [m] := by
  simp only [isUncased, Bool.and_eq_true, beq_iff_eq] at uncased
  exact uncased.1.1

/-- A character without case stands in a text if it stands in its upper case. -/
theorem mem_upper_iff (uncased : isUncased m = true) : m ∈ upper cs ↔ m ∈ cs := by
  rw [upper, List.mem_flatMap]
  constructor
  · rintro ⟨c, inside, image⟩
    obtain rfl := (mem_upperChar_iff uncased).1 image
    exact inside
  · intro inside
    exact ⟨m, inside, (mem_upperChar_iff uncased).2 rfl⟩

/-- No other character has it in its upper case. -/
theorem bne_of_mem_upperChar (uncased : isUncased m = true) (other : c ≠ m) :
    ∀ d ∈ upperChar c, (d != m) = true := by
  rintro d image
  rw [bne_iff_ne]
  rintro rfl
  exact other ((mem_upperChar_iff uncased).1 image)

/-- What comes before a character without case comes before it in upper case. -/
theorem takeWhile_upper (uncased : isUncased m = true) (cs : List Char) :
    (upper cs).takeWhile (· != m) = upper (cs.takeWhile (· != m)) := by
  induction cs with
  | nil => rfl
  | cons c cs ih =>
    rw [upper_cons]
    by_cases same : c = m
    · subst same
      rw [upperChar_of_isUncased uncased, List.takeWhile_cons_of_neg (by simp)]
      exact List.takeWhile_cons_of_neg (by simp)
    · rw [List.takeWhile_append_of_pos (bne_of_mem_upperChar uncased same), ih,
        List.takeWhile_cons_of_pos (by simpa using same), upper_cons]

/-- What comes from such a character on comes from it on in upper case. -/
theorem dropWhile_upper (uncased : isUncased m = true) (cs : List Char) :
    (upper cs).dropWhile (· != m) = upper (cs.dropWhile (· != m)) := by
  induction cs with
  | nil => rfl
  | cons c cs ih =>
    rw [upper_cons]
    by_cases same : c = m
    · subst same
      rw [upperChar_of_isUncased uncased, List.singleton_append,
        List.dropWhile_cons_of_neg (by simp), List.dropWhile_cons_of_neg (by simp), upper_cons,
        upperChar_of_isUncased uncased, List.singleton_append]
    · rw [List.dropWhile_append_of_pos (bne_of_mem_upperChar uncased same), ih,
        List.dropWhile_cons_of_pos (by simpa using same)]

end Uncased

/-! ### Words in upper case -/

section Words

variable {c d : Char} {cs : List Char}

/-- The code points of all blanks. -/
def blankCodes : List Nat :=
  [0x09, 0x0A, 0x0B, 0x0C, 0x0D, 0x20, 0x85, 0xA0, 0x1680, 0x2000, 0x2001, 0x2002, 0x2003, 0x2004,
   0x2005, 0x2006, 0x2007, 0x2008, 0x2009, 0x200A, 0x2028, 0x2029, 0x202F, 0x205F, 0x3000]

/-- Every blank is in the list, which is what makes facts about blanks decidable. -/
theorem mem_blankCodes (blank : isBlank c = true) : c.toNat ∈ blankCodes := by
  simp only [isBlank, Bool.or_eq_true, Bool.and_eq_true, decide_eq_true_eq, beq_iff_eq] at blank
  simp only [blankCodes, List.mem_cons, List.not_mem_nil, or_false]
  omega

/-- Blanks have no case. -/
theorem isUncased_of_isBlank (blank : isBlank c = true) : isUncased c = true := by
  have all : ∀ code ∈ blankCodes, isUncased (Char.ofNat code) = true := by decide +kernel
  have uncased := all c.toNat (mem_blankCodes blank)
  rwa [Char.ofNat_toNat] at uncased

/-- What is no blank has none in its upper case. -/
theorem isBlank_of_mem_upperChar (solid : isBlank c = false) (image : d ∈ upperChar c) :
    isBlank d = false := by
  rw [Bool.eq_false_iff]
  intro blank
  obtain rfl := (mem_upperChar_iff (isUncased_of_isBlank blank)).1 image
  rw [solid] at blank
  cases blank

/-- No character vanishes in upper case. -/
theorem upperChar_ne_nil (c : Char) : upperChar c ≠ [] := by
  have sequences : ∀ entry ∈ upperSequences, entry.2 ≠ [] := by decide +kernel
  rw [upperChar]
  split
  · exact List.cons_ne_nil _ _
  rw [mapChar]
  split
  · next codes found =>
    obtain ⟨before, after, listed, -⟩ := List.lookup_eq_some_iff.1 found
    have some := sequences (c.toNat, codes) (by simp [listed])
    exact mt List.map_eq_nil_iff.1 some
  · exact List.cons_ne_nil _ _

/-- What ends a word ends it in upper case. -/
theorem endsWord_upper (ends : EndsWord cs) : EndsWord (upper cs) := by
  cases cs with
  | nil => exact .inl rfl
  | cons c cs =>
    have blank : isBlank c = true := by simpa [EndsWord, startsBlank] using ends
    rw [upper_cons, upperChar_of_isUncased (isUncased_of_isBlank blank)]
    exact .inr blank

/-- **The words of an upper case are the upper cases of the words.**  A letter whose upper case is
longer stays within its word. -/
theorem words_upper (cs : List Char) : words (upper cs) = (words cs).map upper := by
  induction cs using words_induction with
  | nil => rfl
  | blank c cs blank ih =>
    rw [upper_cons, upperChar_of_isUncased (isUncased_of_isBlank blank), List.singleton_append,
      words_cons_blank blank, words_cons_blank blank, ih]
  | word w rest some solid ends ih =>
    obtain ⟨c, w, rfl⟩ := List.exists_cons_of_ne_nil some
    have some' : upper (c :: w) ≠ [] := by
      rw [upper_cons]
      exact List.append_ne_nil_of_left_ne_nil (upperChar_ne_nil c) _
    -- Capitals of a word are no blanks, so the word stays a word.
    have solid' : ∀ d ∈ upper (c :: w), isBlank d = false := by
      intro d inside
      obtain ⟨e, there, image⟩ := List.mem_flatMap.1 inside
      exact isBlank_of_mem_upperChar (solid e there) image
    rw [upper_append, words_append _ (endsWord_upper ends), words_append _ ends,
      words_of_solid some' solid', words_of_solid some solid, ih, List.map_append]
    rfl

end Words

/-! ### The case of ASCII letters -/

section Ascii

variable {c : Char}

/-- Only ASCII characters have an upper case in ASCII. -/
theorem toUpper_of_not_ascii (other : ¬ c.toNat < 0x80) : c.toUpper = c := by
  refine dif_neg ?_
  rintro ⟨-, last⟩
  exact other (Nat.lt_of_le_of_lt last (by decide))

/-- A property of characters that does not depend on the case of ASCII letters. -/
theorem congr_toUpper {β : Type} {f : Char → β}
    (ascii : ∀ n < 0x80, f (Char.ofNat n).toUpper = f (Char.ofNat n)) (c : Char) :
    f c.toUpper = f c := by
  by_cases small : c.toNat < 0x80
  · exact of_forall_code (P := fun c => f c.toUpper = f c) ascii small
  · rw [toUpper_of_not_ascii small]

/-- The upper case does not tell the case of ASCII letters. -/
theorem upper_map_toUpper (cs : List Char) : upper (cs.map Char.toUpper) = upper cs := by
  have each : ∀ c, upperChar c.toUpper = upperChar c := congr_toUpper (by decide)
  rw [upper, upper, List.flatMap_map, List.flatMap_congr fun c _ => each c]

/-- A character that is its own upper case, and no letter's, is not changed to or from. -/
theorem toUpper_eq_iff {m : Char} (mark : ∀ n < 0x80,
    decide ((Char.ofNat n).toUpper = m) = decide (Char.ofNat n = m)) (c : Char) :
    c.toUpper = m ↔ c = m :=
  decide_eq_decide.1 (congr_toUpper (f := fun c => decide (c = m)) mark c)

/-- Blanks are told alike in any case of ASCII letters. -/
theorem isBlank_toUpper (c : Char) : isBlank c.toUpper = isBlank c :=
  congr_toUpper (by decide) c

/-- The same of the test as a whole, in which form it is rewritten with. -/
theorem isBlank_comp_toUpper : isBlank ∘ Char.toUpper = isBlank :=
  funext isBlank_toUpper

/-- Case and blanks of a text can be taken off in any order. -/
theorem solidPart_map_toUpper (cs : List Char) :
    solidPart (cs.map Char.toUpper) = (solidPart cs).map Char.toUpper := by
  rw [solidPart, List.filter_map]
  simp only [Function.comp_def, isBlank_toUpper]
  rfl

/-- So can case and the blanks around it. -/
theorem trim_map_toUpper (cs : List Char) :
    trim (cs.map Char.toUpper) = (trim cs).map Char.toUpper := by
  rw [trim, trimEnd, trimStart, List.dropWhile_map, isBlank_comp_toUpper, ← List.map_reverse,
    List.dropWhile_map, isBlank_comp_toUpper, ← List.map_reverse]
  rfl

end Ascii

end Text
end PagedQuery
