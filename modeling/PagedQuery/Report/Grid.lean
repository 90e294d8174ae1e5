/-
# Tables drawn with lines

Every cell takes as many lines as it has, every column is as wide as its widest
line, and a blank stands on either side of a text.

    ┌────┬──────┐
    │ id ┆ name │
    ╞════╪══════╡
    │ 1  ┆ x    │
    ├╌╌╌╌┼╌╌╌╌╌╌┤
    │ 2  ┆ NULL │
    └────┴──────┘
-/

import PagedQuery.Text.DisplayWidth

namespace PagedQuery
namespace Report

/-- A heading and rows of texts. -/
structure Grid where
  header : List String
  rows : List (List String)

/-- How a horizontal line is drawn. -/
structure Rule where
  left : Char
  line : Char
  crossing : Char
  right : Char

namespace Grid

/-- The line above a grid. -/
def topRule : Rule := ⟨'┌', '─', '┬', '┐'⟩

/-- The line below the heading. -/
def headerRule : Rule := ⟨'╞', '═', '╪', '╡'⟩

/-- The line between two rows. -/
def rowRule : Rule := ⟨'├', '╌', '┼', '┤'⟩

/-- The line below a grid. -/
def bottomRule : Rule := ⟨'└', '─', '┴', '┘'⟩

/-- The lines of a text; there is always one. -/
def linesOf : List Char → List (List Char)
  | [] => [[]]
  | c :: cs =>
    if c = '\n' then [] :: linesOf cs
    else match linesOf cs with
      | [] => [[c]]
      | line :: lines => (c :: line) :: lines

/-- A row of cells, each as its lines. -/
def cellLines (row : List String) : List (List (List Char)) :=
  row.map fun s => linesOf s.toList

/-- The columns the widest line of a cell takes. -/
def cellWidth (lines : List (List Char)) : Nat :=
  lines.foldl (fun width line => max width (Text.displayWidth line)) 0

/-- The greater of two widths in every column, where one list may be longer. -/
def widen : List Nat → List Nat → List Nat
  | [], others => others
  | widths, [] => widths
  | w :: widths, o :: others => max w o :: widen widths others

/-- The width of every column. -/
def widths (rows : List (List (List (List Char)))) : List Nat :=
  rows.foldl (fun widths row => widen widths (row.map cellWidth)) []

/-- A line of a cell filled up with blanks. -/
def padLine (width : Nat) (line : List Char) : List Char :=
  line ++ List.replicate (width - Text.displayWidth line) ' '

/-- One line through all cells of a row. -/
def rowLine (widths : List Nat) (cells : List (List Char)) : List Char :=
  let padded := widths.zipIdx.map fun (width, i) => padLine width (cells[i]?.getD [])
  "│ ".toList ++ (" ┆ ".toList.intercalate padded ++ " │".toList)

/-- The lines of a row. -/
def rowLines (widths : List Nat) (row : List (List (List Char))) : List (List Char) :=
  let height := row.foldl (fun height lines => max height lines.length) 1
  (List.range height).map fun n => rowLine widths (row.map fun lines => lines[n]?.getD [])

/-- A horizontal line. -/
def ruleLine (widths : List Nat) (r : Rule) : List Char :=
  let parts := widths.map fun width => List.replicate (width + 2) r.line
  r.left :: ([r.crossing].intercalate parts ++ [r.right])

/-- The lines of rows with a horizontal line between neighbours. -/
def bodyLines (widths : List Nat) : List (List (List (List Char))) → List (List Char)
  | [] => []
  | [row] => rowLines widths row
  | row :: rows => rowLines widths row ++ ruleLine widths rowRule :: bodyLines widths rows

/-- The text of a grid, without a line break at its end. -/
def text (g : Grid) : List Char :=
  let header := cellLines g.header
  let rows := g.rows.map cellLines
  let ws := widths (header :: rows)
  let lines := ruleLine ws topRule :: rowLines ws header ++ ruleLine ws headerRule ::
    bodyLines ws rows ++ [ruleLine ws bottomRule]
  ['\n'].intercalate lines

end Grid

end Report
end PagedQuery
