import RouterMenu.Text.Columns
import RouterMenu.Text.Cut

/-!
# Grids of text

Rows of cells in a frame with round corners. A column is as wide as its widest cell, a row as
high as its highest, and the first row is set off by a line, which takes the place of the bottom
line when there is no other row.
-/

namespace RouterMenu.Render

/-- A cell: its lines, each with the columns it takes. -/
structure Cell where
  lines : List (List Char × Nat)

namespace Cell

/-- A cell of the given text. -/
def ofText (s : String) : Cell :=
  ⟨(Text.pieces '\n' s.toList).map fun line => (line, Text.columns line)⟩

/-- The columns of the widest line. -/
def width (c : Cell) : Nat := c.lines.foldl (fun w line => max w line.2) 0

/-- The `i`-th line in a column of the given width, with a blank on either side. -/
def line (c : Cell) (width i : Nat) : List Char :=
  let (text, used) := c.lines.getD i ([], 0)
  ' ' :: text ++ List.replicate (width - used) ' ' ++ [' ']

end Cell

/-- The widths of the columns of a grid of `count` columns. -/
def columnWidths (count : Nat) (rows : List (List Cell)) : List Nat :=
  (List.range count).map fun i =>
    rows.foldl (fun w row => max w ((row[i]?.map Cell.width).getD 0)) 0

/-- A horizontal line of the frame. -/
def rule (left cross right : Char) (widths : List Nat) : List Char :=
  let bars := widths.map fun w => List.replicate (w + 2) '─'
  left :: [cross].intercalate bars ++ [right]

/-- The lines of a row. -/
def rowLines (widths : List Nat) (row : List Cell) : List (List Char) :=
  let height := row.foldl (fun h cell => max h cell.lines.length) 1
  (List.range height).map fun i =>
    '│' :: ['│'].intercalate ((row.zip widths).map fun (cell, w) => cell.line w i) ++ ['│']

/-- The grid of the given rows, of which the first is the head. -/
def grid (rows : List (List String)) : String :=
  let cells := rows.map fun row => row.map Cell.ofText
  match cells with
  | [] => ""
  | head :: body =>
    let widths := columnWidths head.length cells
    let lines :=
      [rule '╭' '┬' '╮' widths] ++ rowLines widths head ++ [rule '├' '┼' '┤' widths] ++
        body.flatMap (rowLines widths) ++
        (if body.isEmpty then [] else [rule '╰' '┴' '╯' widths])
    String.ofList (['\n'].intercalate lines)

end RouterMenu.Render
