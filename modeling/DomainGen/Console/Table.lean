import DomainGen.Console.Line

/-!
# Tables

A table has a title in the middle above it, a head and rows. Every column is as wide as its widest
cell and a blank on each side of it.

* `Box` : the lines around and between the cells; `Box.simple`, `Box.rounded`;
* `Table.lines` : the lines of a table;
* `panelLines` : a text in a frame as wide as the console.
-/

namespace DomainGen.Console

open Text

/-! ## 1. Frames -/

/-- The characters of a horizontal line: its ends, the line itself, its crossings. -/
structure Rule where
  /-- The left end. -/
  left : Char
  /-- Between two crossings. -/
  line : Char
  /-- Where it meets the line between two columns. -/
  cross : Char
  /-- The right end. -/
  right : Char
  deriving DecidableEq, Repr, Inhabited

/-- A frame. Rows have vertical lines in place of horizontal ones. -/
structure Box where
  /-- The line above everything. -/
  top : Rule
  /-- The lines beside and between cells. -/
  row : Rule
  /-- The line below the head. -/
  middle : Rule
  /-- The line below everything. -/
  bottom : Rule
  deriving DecidableEq, Repr, Inhabited

namespace Box

/-- Only a line below the head. -/
def simple : Box :=
  ⟨⟨' ', ' ', ' ', ' '⟩, ⟨' ', ' ', ' ', ' '⟩, ⟨' ', '─', '─', ' '⟩, ⟨' ', ' ', ' ', ' '⟩⟩

/-- Lines everywhere, with round corners. -/
def rounded : Box :=
  ⟨⟨'╭', '─', '┬', '╮'⟩, ⟨'│', ' ', '│', '│'⟩, ⟨'├', '─', '┼', '┤'⟩, ⟨'╰', '─', '┴', '╯'⟩⟩

end Box

/-- A horizontal line over columns of some widths. -/
def Rule.spanning (r : Rule) (widths : List Nat) : String :=
  let pieces := widths.map fun w => List.replicate w r.line
  String.ofList ([r.left] ++ joinWith [r.cross] pieces ++ [r.right])

/-! ## 2. Tables -/

/-- Where cells stand in their column. -/
inductive Side where
  | left
  | right
  deriving DecidableEq, Repr, Inhabited

/-- A column. -/
structure Column where
  /-- The head. -/
  head : String
  /-- Where its cells stand. -/
  side : Side
  deriving DecidableEq, Repr, Inhabited

/-- A table. Every row has a cell for each column. -/
structure Table where
  /-- The title. -/
  title : String
  /-- The frame. -/
  box : Box
  /-- The columns. -/
  columns : List Column
  /-- The rows. -/
  rows : List (List String)
  deriving Repr, Inhabited

/-- A piece of a text on its side of a column. -/
def Side.place (columns : Nat) (piece : List Char) : Side → String
  | left => padRight columns (String.ofList (clip columns piece))
  | right => padRight columns (padLeft columns (String.ofList (clip columns (trimEnd piece))))

/-- The columns a cell needs: those of its longest line. Its tabs are not counted, and it has a
    line end wherever a text may have one. -/
def cellSize (s : String) : Nat :=
  ((cutWhere isLineBoundary (shownChars s)).map cellsOf).foldl max 0

/-- The lines of a cell in a column. -/
def cellLines (side : Side) (columns : Nat) (s : String) : List String :=
  (splitAt '\n' (shownChars s)).flatMap fun line =>
    (wrap columns (expandTabs line)).map fun piece => side.place columns piece

namespace Table

/-- All rows, the head first. -/
def allRows (t : Table) : List (List String) :=
  t.columns.map (·.head) :: t.rows

/-- The widths of the columns, without the blanks beside the cells. -/
def innerWidths (t : Table) : List Nat :=
  (List.range t.columns.length).map fun i =>
    (t.allRows.map fun row => cellSize (row[i]?.getD "")).foldl max 0

/-- The widths of the columns. -/
def widths (t : Table) : List Nat := t.innerWidths.map (· + 2)

/-- How many columns of the console the table takes. -/
def size (t : Table) : Nat := cells (t.box.top.spanning t.widths)

/-- The lines of the cells of a row, in columns of some inner widths. -/
def rowCells (t : Table) (inner : List Nat) (row : List String) : List (List String) :=
  (List.range t.columns.length).map fun i =>
    cellLines (t.columns[i]?.getD default).side (inner[i]?.getD 0) (row[i]?.getD "")

/-- One line of a row; a cell that has no such line is blank there. -/
def rowLine (t : Table) (inner : List Nat) (shown : List (List String)) (k : Nat) : String :=
  let pieces := (shown.zip inner).map fun (cell, columns) =>
    " ".toList ++ ((cell[k]?).getD (blanks columns)).toList ++ " ".toList
  let sides := t.box.row
  String.ofList ([sides.left] ++ joinWith [sides.cross] pieces ++ [sides.right])

/-- The lines of a row: as many as its cell with the most lines has. -/
def rowLines (t : Table) (inner : List Nat) (row : List String) : List String :=
  let shown := t.rowCells inner row
  let height := (shown.map (·.length)).foldl max 1
  (List.range height).map (t.rowLine inner shown)

/-- The lines of the table. -/
def lines (t : Table) : List String :=
  let inner := t.innerWidths
  let outer := t.widths
  [padBoth ' ' t.size t.title, t.box.top.spanning outer]
    ++ t.rowLines inner (t.columns.map (·.head))
    ++ [t.box.middle.spanning outer]
    ++ t.rows.flatMap (t.rowLines inner)
    ++ [t.box.bottom.spanning outer]

end Table

/-! ## 3. Panels -/

/-- A text in a frame over the whole width, with a title in the line above it. -/
def panelLines (box : Box) (title text : String) : List String :=
  let inner := width - 4
  let edge (r : Rule) (middle : String) : String :=
    String.ofList [r.left, r.line] ++ middle ++ String.ofList [r.line, r.right]
  let side := String.ofList [box.row.left]
  [edge box.top (padBoth box.top.line inner (" " ++ title ++ " "))]
    ++ (linesOf text).map (fun line => side ++ " " ++ padRight inner line ++ " " ++ side)
    ++ [box.bottom.spanning [width - 2]]

end DomainGen.Console
