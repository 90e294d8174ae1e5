/-
# Columns a text takes on a terminal

By itself a character takes the columns of its class:

| characters | columns |
| --- | ---: |
| the Khmer sign `17D8` | 3 |
| East Asian wide and full-width, the Khmer vowel `17A4` | 2 |
| marks, formats, medial and final Hangul letters | 0 |
| all others, control characters included | 1 |

Some are drawn together with what follows them, so a line is measured from its
end.  `Context` is what a character has to know of the part right of it, and
`advance` gives the columns that a character adds, or takes back, and the context
of the character left of it.

| drawn together | columns |
| --- | ---: |
| a character and the selector `FE0F` for emoji | 2 |
| an emoji and the selector `FE0E` for text | 1 |
| a quotation mark and the selector `FE01` | 2 |
| emoji with zero-width joiners or a skin tone between them | 2 |
| letters that fuse, such as an Arabic lam and alef | 1 |
-/

import PagedQuery.Text.EmojiTable
import PagedQuery.Text.Ranges
import PagedQuery.Text.WidthTable

namespace PagedQuery
namespace Text

/-- The columns a character takes by itself. -/
def charWidth (c : Char) : Nat :=
  if c.toNat ≤ 0xA0 then 1
  else if c.toNat = 0x17D8 then 3
  else if c.toNat = 0x17A4 then 2
  else if inRanges zeroWidthRanges c.toNat then 0
  else if inRanges wideRanges c.toNat then 2
  else 1

/-- What a variation selector asks of the character before it. -/
inductive Style
  | text
  | emoji
  /-- A quotation mark that fills the columns of an ideograph. -/
  | wide
deriving DecidableEq

/-- The style a selector asks for. -/
def Style.ofChar? (c : Char) : Option Style :=
  if c.toNat = 0xFE0E then some text
  else if c.toNat = 0xFE0F then some emoji
  else if c.toNat = 0xFE01 then some wide
  else none

/-- Whether a style changes the columns of a character. -/
def Style.applies (style : Style) (c : Char) : Bool :=
  match style with
  | text =>
    inRanges emojiRanges c.toNat && inRanges styledRanges c.toNat &&
      !(0x1F200 ≤ c.toNat && c.toNat ≤ 0x1F2FF)
  | emoji => inRanges styledRanges c.toNat
  | wide => ['‘', '’', '“', '”'].contains c

/-- The end of a ligature: a letter, or letters, with which those before it fuse.  A
joined one has a zero-width joiner before it. -/
inductive Ligature
  | alef
  | lamed
  | joinedLamed
  | ya
  | joinedYa
  /-- A Buginese ya with a joiner and the vowel i before it. -/
  | vowelYa
  | tifinagh
  | joinedTifinagh
  /-- A Tifinagh consonant with the consonant joiner before it. -/
  | linkedTifinagh
  | lisuTone
  | orkhonI
  | joinedOrkhonI
  | khmer
deriving DecidableEq

namespace Ligature

/-- The ranges of letters that end a ligature. -/
def table : List (List (Nat × Nat) × Ligature) :=
  [([(0x622, 0x623), (0x625, 0x625), (0x627, 0x627), (0x671, 0x673), (0x675, 0x675),
      (0x773, 0x774), (0x870, 0x882)], alef),
    ([(0x5DC, 0x5DC)], lamed),
    ([(0x1780, 0x1782), (0x1784, 0x1787), (0x1789, 0x178C), (0x178E, 0x1793), (0x1795, 0x1798),
      (0x179B, 0x179D), (0x17A0, 0x17A0), (0x17A2, 0x17A2), (0x17A7, 0x17A7), (0x17AB, 0x17AC),
      (0x17AF, 0x17AF)], khmer),
    ([(0x1A10, 0x1A10)], ya),
    ([(0x2D31, 0x2D65), (0x2D6F, 0x2D6F)], tifinagh),
    ([(0xA4FC, 0xA4FD)], lisuTone),
    ([(0x10C03, 0x10C03)], orkhonI)]

/-- The ligature a letter ends. -/
def ofChar? (c : Char) : Option Ligature :=
  (table.find? fun entry => inRanges entry.1 c.toNat).map (·.2)

/-- The ligature with a zero-width joiner before it. -/
def joined : Ligature → Ligature
  | lamed => joinedLamed
  | ya => joinedYa
  | tifinagh => joinedTifinagh
  | orkhonI => joinedOrkhonI
  | l => l

/-- The marks that are not shown and stand in the way of no ligature. -/
def hiddenMarks : List (Nat × Nat) :=
  [(0x34F, 0x34F), (0x17B4, 0x17B5), (0x180B, 0x180D), (0x180F, 0x180F), (0xFE00, 0xFE0F),
    (0xE0100, 0xE01EF)]

/-- What fuses with the end of a ligature: the columns it adds, and the longer end, if
that is not the whole. -/
def extend? (l : Ligature) (c : Char) : Option (Int × Option Ligature) :=
  let code := c.toNat
  let isTifinagh := ofChar? c = some tifinagh
  match l with
  | alef =>
    if inRanges [(0x644, 0x644), (0x6B5, 0x6B8), (0x76A, 0x76A), (0x8A6, 0x8A6), (0x8C7, 0x8C7)]
        code then some (0, none)
    else if inRanges zeroWidthRanges code && !inRanges joinBreakingRanges code then
      some (0, some alef)
    else none
  | joinedLamed => if code = 0x5D0 then some (0, none) else none
  | khmer => if code = 0x17D2 then some (-1, none) else none
  | joinedYa => if code = 0x1A17 then some (0, some vowelYa) else none
  | vowelYa => if code = 0x1A15 then some (0, none) else none
  | tifinagh => if code = 0x2D7F then some (1, some linkedTifinagh) else none
  | joinedTifinagh =>
    if code = 0x2D7F then some (1, some linkedTifinagh)
    else if isTifinagh then some (0, none)
    else none
  | linkedTifinagh => if isTifinagh then some (-1, none) else none
  | lisuTone => if 0xA4F8 ≤ code ∧ code ≤ 0xA4FB then some (0, none) else none
  | joinedOrkhonI => if code = 0x10C32 then some (0, none) else none
  | lamed | ya | orkhonI => none

/-- What extends the end of a ligature, counting joiners and marks that are not shown. -/
def step? (l : Ligature) (c : Char) : Option (Int × Option Ligature) :=
  if l = alef then l.extend? c
  else if c.toNat = 0x200D then some (0, some l.joined)
  else if inRanges hiddenMarks c.toNat then some (0, some l)
  else l.extend? c

end Ligature

/-- What stands right of a character, as far as the columns hang on it. -/
inductive Following
  /-- Nothing that matters. -/
  | other
  | ligature (l : Ligature)
  /-- The Kirat Rai vowel e, and ai, which is two of them. -/
  | vowelE
  | vowelAi
  | emoji
  | skinTone
  /-- One regional letter, and several. -/
  | region
  | regions
  /-- An emoji with a joiner before it, and then with a keycap. -/
  | joinedEmoji
  | joinedKeycap
  /-- A joined emoji with one regional letter before it, with whole flags, and with flags
  and one letter. -/
  | joinedRegion
  | joinedFlags
  | joinedFlagsRegion
  /-- A joined emoji with an end tag and so many letter tags before it. -/
  | letterTags (count : Nat)
  /-- A joined emoji with an end tag, letter tags and so many digit tags before it. -/
  | digitTags (count : Nat)
deriving DecidableEq

namespace Following

/-- Whether a character is a regional letter; two of them are a flag. -/
def isRegional (c : Char) : Bool :=
  0x1F1E6 ≤ c.toNat && c.toNat ≤ 0x1F1FF

/-- Whether a character is a skin tone. -/
def isSkinTone (c : Char) : Bool :=
  0x1F3FB ≤ c.toNat && c.toNat ≤ 0x1F3FF

/-- What a character is to the one left of it. -/
def ofChar (c : Char) : Following :=
  if c.toNat = 0x16D67 then vowelE
  else if c.toNat = 0x16D68 then vowelAi
  else if isRegional c then region
  else if isSkinTone c then skinTone
  else if inRanges emojiRanges c.toNat then emoji
  else ((Ligature.ofChar? c).map ligature).getD other

/-- What is drawn together with the part right of it: the columns it adds, and what the
two are to the character left of them. -/
def step? (f : Following) (c : Char) : Option (Int × Following) :=
  let code := c.toNat
  let isJoiner := code = 0x200D
  match f with
  | other => none
  | ligature l => (l.step? c).map fun (columns, l) => (columns, (l.map ligature).getD other)
  | vowelE =>
    if code = 0x16D63 ∨ code = 0x16D69 then some (0, other)
    else if code = 0x16D67 then some (0, vowelAi)
    else if code = 0x16D68 then some (1, vowelE)
    else none
  | vowelAi => if code = 0x16D63 then some (0, other) else none
  | emoji => if isJoiner then some (0, joinedEmoji) else none
  | skinTone =>
    if isJoiner then some (0, joinedEmoji)
    else if inRanges skinToneBaseRanges code then some (0, emoji)
    else none
  | region => if isRegional c then some (1, regions) else none
  | regions =>
    if isRegional c then some (1, regions)
    else if isJoiner then some (0, joinedEmoji)
    else none
  | joinedEmoji =>
    if code = 0x20E3 then some (0, joinedKeycap)
    else if isRegional c then some (1, joinedRegion)
    else if isSkinTone c then some (0, skinTone)
    else if code = 0xE007F then some (0, letterTags 0)
    else if inRanges emojiRanges code then some (0, emoji)
    else none
  | joinedKeycap => none
  | joinedRegion => if isRegional c then some (-1, joinedFlags) else none
  | joinedFlags =>
    if isRegional c then some (3, joinedFlagsRegion)
    else if isJoiner then some (0, joinedEmoji)
    else none
  | joinedFlagsRegion =>
    if isRegional c then some (-1, joinedFlags)
    else if isJoiner then some (0, joinedEmoji)
    else none
  | letterTags n =>
    if 0xE0061 ≤ code ∧ code ≤ 0xE007A ∧ n < 6 then some (0, letterTags (n + 1))
    else if 0xE0030 ≤ code ∧ code ≤ 0xE0039 ∧ n ≤ 4 then some (0, digitTags 1)
    else if code = 0x1F3F4 ∧ 3 ≤ n then some (0, emoji)
    else none
  | digitTags n =>
    if 0xE0030 ≤ code ∧ code ≤ 0xE0039 ∧ n < 3 then some (0, digitTags (n + 1))
    else if code = 0x1F3F4 ∧ n = 3 then some (0, emoji)
    else none

/-- The part right of selectors for a character on which they have no effect: a ligature
stays open, an emoji that was joined does not. -/
def pastSelectors : Following → Following
  | ligature l => ligature l
  | _ => other

/-- The part right of a selector for what stands left of it.  A ligature stays open, and a
joined emoji or keycap can still become a part of the character that is to be an emoji. -/
def behindSelector (f : Following) (style : Style) : Following :=
  match f, style with
  | joinedEmoji, .emoji => joinedEmoji
  | joinedKeycap, .emoji => joinedKeycap
  | f, _ => f.pastSelectors

end Following

/-- What a character has to know of the part of a line right of it. -/
structure Context where
  following : Following
  /-- The styles that the selectors right beside it ask for. -/
  styles : List Style
deriving DecidableEq

namespace Context

/-- Nothing of importance. -/
def none : Context := ⟨.other, []⟩

/-- A context without selectors. -/
def of (f : Following) : Context := ⟨f, []⟩

/-- The style that a character takes on: of those asked for that change its columns, emoji
goes before text and text before wide. -/
def style? (x : Context) (c : Char) : Option Style :=
  [.emoji, .text, .wide].find? fun style => x.styles.contains style && style.applies c

/-- What stands right of a character that takes on no style. -/
def plainFollowing (x : Context) : Following :=
  if x.styles.isEmpty then x.following else x.following.pastSelectors

/-- The context left of a selector.  Before a ligature a selector for text or for a wide
mark keeps its effect when others stand left of it; elsewhere the leftmost one counts. -/
def select (x : Context) (style : Style) : Context :=
  match x.plainFollowing with
  | .ligature l => ⟨.ligature l, style :: x.styles.filter fun s => s != .emoji && s != style⟩
  | f => ⟨f.behindSelector style, [style]⟩

/-- The columns a character adds that takes on a style, and the context left of it. -/
def applyStyle (x : Context) : Style → Int × Context
  | .text => (1, none)
  | .wide => (2, none)
  | .emoji =>
    let isPart := x.following = .joinedEmoji ∨ x.following = .joinedKeycap
    (if isPart then 0 else 2, of .emoji)

/-- The columns a character adds that takes on no style, and the context left of it. -/
def applyPlain (x : Context) (c : Char) : Int × Context :=
  if c.toNat ≤ 0xA0 then (1, none)
  else
    match Style.ofChar? c, x.plainFollowing.step? c with
    | some style, _ => (0, x.select style)
    | .none, some (columns, next) => (columns, of next)
    | .none, .none => (charWidth c, of (.ofChar c))

/-- The columns a character adds to the part right of it, and the context left of it. -/
def advance (x : Context) (c : Char) : Int × Context :=
  match x.style? c with
  | some style => x.applyStyle style
  | .none => x.applyPlain c

end Context

/-- The columns a line takes, and the context of a character left of it. -/
def measure (line : List Char) : Int × Context :=
  line.foldr (fun c (columns, x) => ((x.advance c).1 + columns, (x.advance c).2)) (0, .none)

/-- The columns a line of text takes. -/
def displayWidth (line : List Char) : Nat :=
  (measure line).1.toNat

end Text
end PagedQuery
