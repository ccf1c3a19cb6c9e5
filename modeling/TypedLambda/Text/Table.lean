/-
Tables with a title and a framed header.

Every column is as wide as its widest line, header included, and has a blank on either
side.  A cell may have several lines; a row is as high as its highest cell.  The title
stands centred over the frame, one column to the left where it cannot be exact.

A cell is measured before it is set.  Measuring counts no column for a tab and takes every
line separator of the character standard for the end of a line, while setting fills tabs
up and breaks at line feeds alone; so a cell may turn out too wide, and then it is wrapped.
-/
import TypedLambda.Text.Display
import TypedLambda.Text.Wrap

namespace TypedLambda.Text

structure Table where
  title : String
  header : List String
  rows : List (List String)

namespace Table

/-- A line filled up with blanks to a number of columns. -/
def fill (room : Nat) (s : String) : String :=
  s ++ String.ofList (List.replicate (room - width s) ' ')

def rule (c : Char) (columns : Nat) : String :=
  String.ofList (List.replicate columns c)

/-! ### Cells -/

/-- A line feed, or another character that ends a line where a cell is measured. -/
def endsLine (c : Char) : Bool :=
  let n := c.toNat
  n == 0x0A || (0x1C ≤ n && n ≤ 0x1E) || n == 0x85 || n == 0x2028 || n == 0x2029

/-- How wide a cell asks to be. -/
def cellWidth (cell : String) : Nat :=
  let separated := (withoutCursorControls cell).map fun c => if endsLine c then '\n' else c
  ((splitAt '\n' separated).map columns).foldl max 0

/-- The lines of a cell in a number of columns. -/
def cellLines (room : Nat) (cell : String) : List String :=
  ((splitAt '\n' (withoutCursorControls cell)).flatMap fun line =>
    wrapLine room (expandTabs line)).map String.ofList

/-! ### Rows -/

/-- The width of each column, for rows of the length of the header. -/
def columnWidths (t : Table) : List Nat :=
  t.rows.foldl (fun widths row => List.zipWith max widths (row.map cellWidth))
    (t.header.map cellWidth)

/-- A line of the frame: its ends, what parts the columns, and what runs along. -/
def frameLine (left between right along : Char) (widths : List Nat) : String :=
  String.singleton left
    ++ (String.singleton between).intercalate (widths.map fun w => rule along (w + 2))
    ++ String.singleton right

/-- The lines of a row between the sides of the frame. -/
def rowLines (side : Char) (widths : List Nat) (row : List String) : List String :=
  let cells := List.zipWith cellLines widths row
  let height := (cells.map List.length).foldl max 1
  (List.range height).map fun k =>
    let texts := List.zipWith (fun w cell => " " ++ fill w (cell.getD k "") ++ " ") widths cells
    String.singleton side ++ (String.singleton side).intercalate texts ++ String.singleton side

/-! ### The table -/

/-- The title over a frame of the given width. -/
def titleLine (t : Table) (columns : Nat) : String :=
  rule ' ' ((columns - width t.title) / 2) ++ t.title

def render (t : Table) : List String :=
  let widths := t.columnWidths
  let columns := widths.foldl (fun columns w => columns + w + 3) 1
  [t.titleLine columns, frameLine '┏' '┳' '┓' '━' widths]
    ++ rowLines '┃' widths t.header
    ++ [frameLine '┡' '╇' '┩' '━' widths]
    ++ t.rows.flatMap (rowLines '│' widths)
    ++ [frameLine '└' '┴' '┘' '─' widths]

end Table

end TypedLambda.Text
