import DomainGen.Text.Blank
import DomainGen.Text.Cells
import DomainGen.Text.Lines

/-!
# Lines on a console

A console shows texts line by line, in columns of one width. Some control characters are not shown
at all, and a tab reaches to the next eighth column.

* `Console.linesOf` : the lines of a text;
* `Console.wrap` : a line cut between words into pieces for a column;
* `Console.padLeft`, `Console.padRight`, `Console.padBoth` : a text in a column.
-/

namespace DomainGen.Console

open Text

/-- How many columns a console has. -/
def width : Nat := 200

/-! ## 1. Texts -/

/-- Is the character left out on a console? Bell, backspace, vertical tab, form feed and carriage
    return are. -/
def isHidden (c : Char) : Bool :=
  [7, 8, 11, 12, 13].contains c.toNat

/-- The characters of a text that a console shows. -/
def shownChars (s : String) : List Char :=
  s.toList.filter fun c => !isHidden c

/-- How many columns lie between two tab stops. -/
def tabWidth : Nat := 8

/-- The pieces of a line between its tabs in a row, from a column on. A tab is a blank and further
    blanks up to the next tab stop. -/
def joinAtStops : (column : Nat) → List (List Char) → List Char
  | _, [] => []
  | _, [piece] => piece
  | column, piece :: rest =>
    let shown := piece ++ [' ']
    let reached := column + cellsOf shown
    let more := (tabWidth - reached % tabWidth) % tabWidth
    shown ++ List.replicate more ' ' ++ joinAtStops (reached + more) rest

/-- A line with its tabs shown as blanks. -/
def expandTabs (line : List Char) : List Char :=
  joinAtStops 0 (splitAt '\t' line)

/-- The lines of a text. -/
def linesOf (s : String) : List String :=
  (splitAt '\n' (shownChars s)).map fun line => String.ofList (expandTabs line)

/-! ## 2. Words -/

/-- The words of a line, each with the white space after it; the first one has that before it too.
    A line of white space has none. -/
def wordsOf : (room : Nat) → List Char → List (List Char)
  | 0, _ => []
  | room + 1, s =>
    let before := s.takeWhile isBlank
    let fromWord := s.dropWhile isBlank
    let word := fromWord.takeWhile fun c => !isBlank c
    let afterWord := fromWord.dropWhile fun c => !isBlank c
    if word.isEmpty then []
    else
      (before ++ word ++ afterWord.takeWhile isBlank) :: wordsOf room (afterWord.dropWhile isBlank)

/-- A text without the white space at its end. -/
def trimEnd (s : List Char) : List Char :=
  (s.reverse.dropWhile isBlank).reverse

/-- Words in a row, as many in a piece as fit into some columns. `taken` columns are taken by the
    piece begun. -/
def packWords (columns : Nat) : (piece : List Char) → (taken : Nat) → List (List Char) →
    List (List Char)
  | piece, _, [] => [piece]
  | piece, taken, word :: rest =>
    if taken + cellsOf (trimEnd word) ≤ columns then
      packWords columns (piece ++ word) (taken + cellsOf word) rest
    else if piece.isEmpty then packWords columns word (cellsOf word) rest
    else piece :: packWords columns word (cellsOf word) rest

/-- A line without the white space at its end that reaches beyond some columns. -/
def trimBeyond (columns : Nat) (line : List Char) : List Char :=
  let blank := line.length - (trimEnd line).length
  line.take (line.length - min blank (line.length - columns))

/-- A line cut between words into pieces for a column. -/
def wrap (columns : Nat) (line : List Char) : List (List Char) :=
  let pieces := match wordsOf line.length line with
    | [] => [line]
    | words => packWords columns [] 0 words
  pieces.map (trimBeyond columns)

/-- A line cut to some columns; dots stand for what is cut off. -/
def clip (columns : Nat) (line : List Char) : List Char :=
  if cellsOf line ≤ columns then line else cropTo (columns - 1) line ++ ['…']

/-! ## 3. Columns -/

/-- Some blanks. -/
def blanks (n : Nat) : String := String.ofList (List.replicate n ' ')

/-- A text with blanks up to the end of its column. A joiner at its end hides the first blank, and
    one more follows. -/
def padRight (columns : Nat) (s : String) : String :=
  let filled := s ++ blanks (columns - cells s)
  filled ++ blanks (columns - cells filled)

/-- A text at the right end of a column. -/
def padLeft (columns : Nat) (s : String) : String := blanks (columns - cells s) ++ s

/-- A text in the middle of a column; the greater part of an odd rest is on the right. -/
def padBoth (fill : Char) (columns : Nat) (s : String) : String :=
  let rest := columns - cells s
  String.ofList (List.replicate (rest / 2) fill) ++ s
    ++ String.ofList (List.replicate (rest - rest / 2) fill)

/-! ## 4. Widths -/

/-- Blanks after a text take one column each, but for the first if the text ends in a joiner. -/
theorem cells_append_blanks (s : String) (n : Nat) :
    cells (s ++ blanks n) = cells s + if endsHiding false s.toList then n - 1 else n := by
  simp [cells, cellsOf, blanks, cellsFrom_append_blanks]

/-- Blanks before a text take one column each. -/
@[simp] theorem cells_blanks_append (n : Nat) (s : String) :
    cells (blanks n ++ s) = n + cells s := by
  simp [cells, blanks, cellsOf_blanks_append]

/-- A text without joiners at its end fills its column exactly if it fits. -/
theorem cells_padRight {columns : Nat} {s : String} (h : cells s ≤ columns)
    (hs : endsHiding false s.toList = false) : cells (padRight columns s) = columns := by
  have hf : cells (s ++ blanks (columns - cells s)) = columns := by
    rw [cells_append_blanks]
    simp [hs]
    omega
  have h0 : blanks 0 = "" := rfl
  simp only [padRight, hf, Nat.sub_self, h0, String.append_empty]

/-- A text that fits fills its column exactly. -/
theorem cells_padLeft {columns : Nat} {s : String} (h : cells s ≤ columns) :
    cells (padLeft columns s) = columns := by
  simp [padLeft]
  omega

end DomainGen.Console
