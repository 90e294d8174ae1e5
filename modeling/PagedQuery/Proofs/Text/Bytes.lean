/-
# Byte positions

A text can be cut at a byte position that lies between two of its characters or at one of its
ends.  Where a text is split into a part and what is before and behind it, the part is cut out at
the lengths in bytes of these (`slice?_eq_some`), and a character is found at the length of what is
before it (`position?_eq_some`).
-/

import Mathlib.Data.List.TakeWhile
import Mathlib.Data.String.Basic

namespace PagedQuery

/-- A part of a text, from a byte position up to another.  Nothing is asked of the positions until
the part is cut out. -/
structure ByteRange where
  /-- The position of the first byte. -/
  start : Nat
  /-- The position behind the last byte. -/
  stop : Nat
deriving DecidableEq

/-- Whether a range can be cut out of a text: it does not end before it starts, and neither end
lies inside a character or behind the text. -/
structure ByteRange.IsWithin (r : ByteRange) (text : String) : Prop where
  start_le_stop : r.start ≤ r.stop
  isValid_start : (⟨r.start⟩ : String.Pos.Raw).IsValid text
  isValid_stop : (⟨r.stop⟩ : String.Pos.Raw).IsValid text

/-- The three conditions, each of which can be decided. -/
theorem ByteRange.isWithin_iff {r : ByteRange} {text : String} : r.IsWithin text ↔
    r.start ≤ r.stop ∧ (⟨r.start⟩ : String.Pos.Raw).IsValid text ∧
      (⟨r.stop⟩ : String.Pos.Raw).IsValid text :=
  ⟨fun h => ⟨h.1, h.2, h.3⟩, fun h => ⟨h.1, h.2.1, h.2.2⟩⟩

instance (r : ByteRange) (text : String) : Decidable (r.IsWithin text) :=
  decidable_of_iff _ ByteRange.isWithin_iff.symm

namespace Text

open String (utf8Len)

/-- The part of a text in a range, if it can be cut out: the range must lie in the text, between
characters. -/
def slice? (text : String) (r : ByteRange) : Option String :=
  if r.IsWithin text then some (String.Pos.Raw.extract text ⟨r.start⟩ ⟨r.stop⟩) else none

/-- A text without the part in a range, if that can be cut out. -/
def erase? (text : String) (r : ByteRange) : Option String :=
  if r.IsWithin text then
    (slice? text ⟨0, r.start⟩).bind fun before =>
      (slice? text ⟨r.stop, text.utf8ByteSize⟩).map fun after => before ++ after
  else none

/-- The characters of a text with their positions, the first one at a given position. -/
def charPositions (position : Nat) : List Char → List (Nat × Char)
  | [] => []
  | c :: cs => (position, c) :: charPositions (position + c.utf8Size) cs

/-- The position of the first place where a character stands in a text. -/
def position? (c : Char) (text : String) : Option Nat :=
  ((charPositions 0 text.toList).find? fun entry => entry.2 == c).map (·.1)

/-- The position of the first place where a text stands in another one, which starts at a given
position. -/
def positionOf? (sought : List Char) (position : Nat) : List Char → Option Nat
  | [] => if sought.isEmpty then some position else none
  | c :: cs =>
    if sought.isPrefixOf (c :: cs) then some position
    else positionOf? sought (position + c.utf8Size) cs

/-- A text that is not empty has a first character. -/
theorem exists_toList_eq_cons {text : String} (nonempty : text ≠ "") :
    ∃ c cs, text.toList = c :: cs :=
  List.exists_cons_of_ne_nil (mt String.toList_eq_nil_iff.1 nonempty)

/-- The position behind a text is found by going over its first character. -/
theorem add_utf8Len_cons (position : Nat) (c : Char) (cs : List Char) :
    position + utf8Len (c :: cs) = position + c.utf8Size + utf8Len cs := by
  rw [String.utf8Len_cons, Nat.add_assoc, Nat.add_comm c.utf8Size]

/-! ### Cutting -/

section Cutting

variable {text : String} {before part after : List Char}

/-- A text can be cut behind any of its characters. -/
theorem isValid_utf8Len (whole : text.toList = before ++ after) :
    (⟨utf8Len before⟩ : String.Pos.Raw).IsValid text := by
  rw [String.Pos.Raw.isValid_iff_exists_append]
  refine ⟨String.ofList before, String.ofList after, ?_, ?_⟩
  · rw [← String.ofList_append, ← whole, String.ofList_toList]
  · rw [String.Pos.Raw.ext_iff, String.byteIdx_rawEndPos, String.utf8ByteSize_ofList]

/-- A part of a text lies in the range that its length and that of what is before it give. -/
theorem isWithin_of_append (whole : text.toList = before ++ part ++ after) :
    ByteRange.IsWithin ⟨utf8Len before, utf8Len before + utf8Len part⟩ text where
  start_le_stop := Nat.le_add_right ..
  isValid_start := isValid_utf8Len (by rw [whole, List.append_assoc])
  isValid_stop := by
    rw [← String.utf8Len_append]
    exact isValid_utf8Len whole

/-- **A part of a text is cut out at its place.**  The place is given by what stands before it and
behind it, so no position has to be checked. -/
theorem slice?_eq_some (whole : text.toList = before ++ part ++ after) :
    slice? text ⟨utf8Len before, utf8Len before + utf8Len part⟩ = some (String.ofList part) := by
  have cut := String.extract_of_valid before part after
  rw [← whole, String.ofList_toList] at cut
  rw [slice?, if_pos (isWithin_of_append whole), cut]

/-- The start of a text is cut out up to its length. -/
theorem slice?_start (whole : text.toList = part ++ after) :
    slice? text ⟨0, utf8Len part⟩ = some (String.ofList part) := by
  have whole' : text.toList = [] ++ part ++ after := whole
  simpa using slice?_eq_some whole'

/-- The end of a text is cut out from its place on. -/
theorem slice?_end (whole : text.toList = before ++ part) :
    slice? text ⟨utf8Len before, text.utf8ByteSize⟩ = some (String.ofList part) := by
  have size : text.utf8ByteSize = utf8Len before + utf8Len part := by
    rw [← String.utf8Len_toList, whole, String.utf8Len_append]
  have whole' : text.toList = before ++ part ++ [] := by rw [whole, List.append_nil]
  rw [size]
  exact slice?_eq_some whole'

/-- What is left around a part of a text is what is before it and behind it. -/
theorem erase?_eq_some (whole : text.toList = before ++ part ++ after) :
    erase? text ⟨utf8Len before, utf8Len before + utf8Len part⟩ =
      some (String.ofList (before ++ after)) := by
  have first : slice? text ⟨0, utf8Len before⟩ = some (String.ofList before) :=
    slice?_start (by rw [whole, List.append_assoc])
  have last : slice? text ⟨utf8Len before + utf8Len part, text.utf8ByteSize⟩ =
      some (String.ofList after) := by
    rw [← String.utf8Len_append]
    exact slice?_end whole
  rw [erase?, if_pos (isWithin_of_append whole)]
  dsimp only
  rw [first, last, Option.bind_some, Option.map_some, String.ofList_append]

end Cutting

/-! ### Searching -/

section Searching

variable {c : Char} {text : String} {before after : List Char}

/-- The walk over the positions stops at the first place of a character. -/
theorem find?_charPositions (other : c ∉ before) (position : Nat) :
    ((charPositions position (before ++ c :: after)).find? fun entry => entry.2 == c).map (·.1) =
      some (position + utf8Len before) := by
  induction before generalizing position with
  | nil => simp [charPositions]
  | cons d before ih =>
    obtain ⟨ne, other⟩ := not_or.1 (mt List.mem_cons.2 other)
    have next : (d == c) = false := beq_eq_false_iff_ne.2 (Ne.symm ne)
    rw [List.cons_append, charPositions, List.find?_cons_of_neg (by simp [next]), ih other,
      add_utf8Len_cons]

/-- **A character is found at the length of what comes before it.**  It is the first place if it is
not in what comes before. -/
theorem position?_eq_some (whole : text.toList = before ++ c :: after) (other : c ∉ before) :
    position? c text = some (utf8Len before) := by
  rw [position?, whole, find?_charPositions other, Nat.zero_add]

/-- A character that is not found does not stand in the text. -/
theorem position?_eq_none_iff : position? c text = none ↔ c ∉ text.toList := by
  rw [position?, Option.map_eq_none_iff]
  generalize text.toList = cs
  generalize 0 = position
  induction cs generalizing position with
  | nil => simp [charPositions]
  | cons d cs ih =>
    rw [charPositions, List.find?_cons]
    by_cases same : d = c
    · simp [same]
    · have next : (d == c) = false := beq_eq_false_iff_ne.2 same
      simp only [next, ih, List.mem_cons, not_or]
      exact ⟨fun later => ⟨Ne.symm same, later⟩, And.right⟩

/-- Up to a character, or to the end of a text without it. -/
theorem getD_position? (c : Char) (text : String) :
    (position? c text).getD text.utf8ByteSize = utf8Len (text.toList.takeWhile (· != c)) := by
  by_cases inside : c ∈ text.toList
  · obtain ⟨before, after, whole, other⟩ := List.eq_append_cons_of_mem inside
    have all : ∀ d ∈ before, (d != c) = true := fun d there =>
      bne_iff_ne.2 fun same => other (same ▸ there)
    rw [position?_eq_some whole other, whole, List.takeWhile_append_of_pos all,
      List.takeWhile_cons_of_neg (by simp), List.append_nil]
    rfl
  · have all : ∀ d ∈ text.toList, (d != c) = true := fun d there =>
      bne_iff_ne.2 fun same => inside (same ▸ there)
    rw [position?_eq_none_iff.2 inside, List.takeWhile_eq_self_iff.2 all, String.utf8Len_toList]
    rfl

end Searching

end Text
end PagedQuery
