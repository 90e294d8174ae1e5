/-
# Blank characters, trimming and words

A blank is a character with the Unicode property White_Space:

| code points | what they are |
| --- | --- |
| `0009` … `000D`, `0020`, `0085` | controls and the ASCII space |
| `00A0`, `1680`, `2000` … `200A`, `202F`, `205F`, `3000` | spaces |
| `2028`, `2029` | line and paragraph separators |

The zero-width space `200B` and the byte order mark `FEFF` are not blank.
-/

namespace PagedQuery
namespace Text

/-- Whether a character has the property White_Space. -/
def isBlank (c : Char) : Bool :=
  let n := c.toNat
  (0x09 ≤ n && n ≤ 0x0D) || n == 0x20 || n == 0x85 || n == 0xA0 || n == 0x1680 ||
    (0x2000 ≤ n && n ≤ 0x200A) || n == 0x2028 || n == 0x2029 || n == 0x202F || n == 0x205F ||
    n == 0x3000

/-- A text without the blanks it starts with. -/
def trimStart (cs : List Char) : List Char :=
  cs.dropWhile isBlank

/-- A text without the blanks it ends with. -/
def trimEnd (cs : List Char) : List Char :=
  (cs.reverse.dropWhile isBlank).reverse

/-- A text without the blanks around it. -/
def trim (cs : List Char) : List Char :=
  trimEnd (trimStart cs)

/-- Whether a text holds nothing but blanks. -/
def isAllBlank (cs : List Char) : Bool :=
  cs.all isBlank

/-- The maximal runs of characters that are not blank, in order. -/
def words : List Char → List (List Char)
  | [] => []
  | c :: cs =>
    if isBlank c then words cs
    else match cs with
      | [] => [[c]]
      | d :: _ =>
        if isBlank d then [c] :: words cs
        else match words cs with
          | [] => [[c]]
          | w :: ws => (c :: w) :: ws

/-- Trimming never makes a text longer. -/
theorem length_trimEnd_le (cs : List Char) : (trimEnd cs).length ≤ cs.length := by
  simpa [trimEnd] using (List.dropWhile_sublist (l := cs.reverse) isBlank).length_le

/-- Texts written one after another with a separator between neighbours. -/
def joinWith (separator : String) (parts : List (List Char)) : List Char :=
  separator.toList.intercalate parts

end Text
end PagedQuery
