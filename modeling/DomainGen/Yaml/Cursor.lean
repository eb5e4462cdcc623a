/-!
# A place in a YAML text

The characters that are left, with the place they begin at: how many were read, the line, and the
column. Tokens are recognised by where they stand, so reading keeps all four.

* `endMark` : what `peek` shows after the last character;
* `Cursor.advance`, `Cursor.advanceBy` : reading one character, several characters;
* `Cursor.takeBreak` : reading a line break; five spellings count as one, of which three read as
  a line feed;
* `Cursor.takeSpan` : reading the longest beginning whose characters satisfy a test.
-/

namespace DomainGen.Yaml

/-! ## 1. Classes of characters -/

/-- The character shown after the end of the text; no text that is read contains it. -/
def endMark : Char := '\x00'

/-- Does the character break a line? -/
def isBreak (c : Char) : Bool :=
  c == '\n' || c == '\r' || c.toNat == 0x85 || c.toNat == 0x2028 || c.toNat == 0x2029

/-- Does a line, or the text, end here? -/
def isLineEnd (c : Char) : Bool :=
  c == endMark || isBreak c

/-- Does the character end a word: a blank, a line break, or the end? -/
def isBlankOrEnd (c : Char) : Bool :=
  c == ' ' || c == '\t' || isLineEnd c

/-- The mark of byte order, which takes no column. -/
def byteOrderMark : Char := Char.ofNat 0xfeff

/-- May the character occur in a text? -/
def isAllowed (c : Char) : Bool :=
  let n := c.toNat
  n == 9 || n == 10 || n == 13 || (0x20 ≤ n && n ≤ 0x7e) || n == 0x85
    || (0xa0 ≤ n && n ≤ 0xd7ff) || (0xe000 ≤ n && n ≤ 0xfffd) || 0x10000 ≤ n

/-- The characters of the names of anchors, directives and tag handles. -/
def isNameChar (c : Char) : Bool :=
  c.isAlphanum || c == '-' || c == '_'

/-! ## 2. Reading -/

/-- The characters that are left and where they begin. -/
structure Cursor where
  /-- The characters that are left. -/
  rest : List Char
  /-- How many characters were read. -/
  index : Nat
  /-- How many lines were ended. -/
  line : Nat
  /-- How many characters of the line were read. -/
  column : Nat
  deriving Repr, Inhabited

namespace Cursor

/-- The beginning of a text. -/
def start (s : List Char) : Cursor := ⟨s, 0, 0, 0⟩

/-- The next character. -/
def peek (c : Cursor) : Char :=
  c.rest.headD endMark

/-- The character `n` places further. -/
def peekAt (c : Cursor) (n : Nat) : Char :=
  (c.rest.drop n).headD endMark

/-- Does the character end a line, given what follows it? A carriage return before a line feed
    does not. -/
def endsLine (ch : Char) (rest : List Char) : Bool :=
  if ch == '\r' then rest.head? != some '\n' else isBreak ch

/-- After one character. -/
def advance (c : Cursor) : Cursor :=
  match c.rest with
  | [] => c
  | ch :: rest =>
    if endsLine ch rest then ⟨rest, c.index + 1, c.line + 1, 0⟩
    else if ch == byteOrderMark then ⟨rest, c.index + 1, c.line, c.column⟩
    else ⟨rest, c.index + 1, c.line, c.column + 1⟩

/-- After several characters. -/
def advanceBy (c : Cursor) : Nat → Cursor
  | 0 => c
  | n + 1 => c.advance.advanceBy n

/-- The longest beginning whose characters satisfy a test, and the place after it. -/
def takeSpan (c : Cursor) (test : Char → Bool) : List Char × Cursor :=
  let span := c.rest.takeWhile test
  (span, c.advanceBy span.length)

/-- After the blanks that stand here. -/
def skipBlanks (c : Cursor) : Cursor :=
  (c.takeSpan (· == ' ')).2

/-- A line break, if one stands here, as it reads, and the place after it. -/
def takeBreak (c : Cursor) : List Char × Cursor :=
  match c.rest with
  | '\r' :: '\n' :: _ => (['\n'], c.advanceBy 2)
  | ch :: _ =>
    if ch == '\n' || ch == '\r' || ch.toNat == 0x85 then (['\n'], c.advance)
    else if isBreak ch then ([ch], c.advance)
    else ([], c)
  | [] => ([], c)

/-- After the comment that stands here, up to the end of its line. -/
def skipComment (c : Cursor) : Cursor :=
  if c.peek == '#' then (c.takeSpan fun ch => !isLineEnd ch).2 else c

/-- Does a line of three equal marks that separates documents begin here? -/
def atSeparator (c : Cursor) : Bool :=
  let three := c.rest.take 3
  (three == ['-', '-', '-'] || three == ['.', '.', '.']) && isBlankOrEnd (c.peekAt 3)

end Cursor

end DomainGen.Yaml
