import DomainGen.Yaml.Token
import DomainGen.Number.Reading

/-!
# Reading tokens

From the characters of a YAML text to its tokens. Two things are not seen where they begin: a block
collection, which begins where a line is indented further, and a key without a question mark, which
is known only when its colon comes. So a lexer keeps the columns of the open block collections, and
for each open bracket the place where a key may have begun.

* `Lexer` : the state between two tokens;
* `Lexer.step` : reading one token, or the end;
* `tokens` : all tokens of a text. A text that cannot be read to its end has the token `broken` for
  the rest.
-/

namespace DomainGen.Yaml

/-! ## 1. State -/

/-- A place where a key may have begun. -/
structure KeyStart where
  /-- The number of tokens before it. -/
  before : Nat
  /-- Where its characters begin. -/
  index : Nat
  /-- Its line. -/
  line : Nat
  /-- Its column. -/
  column : Nat
  /-- Must a colon follow? So it is where the indentation of the line leaves no other meaning. -/
  required : Bool
  deriving Repr, Inhabited

/-- The state between two tokens. -/
structure Lexer where
  /-- The place reached. -/
  cursor : Cursor
  /-- The column of the innermost open block collection, or -1. -/
  indent : Int
  /-- The columns of the block collections around it. -/
  outer : List Int
  /-- How many brackets are open. -/
  flow : Nat
  /-- May a key begin here? -/
  keyAllowed : Bool
  /-- Where keys may have begun, by the number of open brackets. -/
  keys : List (Nat × KeyStart)
  /-- The tokens read, the last one first. -/
  read : List Token
  deriving Repr, Inhabited

/-- The longest key without a question mark, in characters. -/
def maxKeyLength : Nat := 1024

namespace Lexer

/-- The state before the first token. -/
def start (s : List Char) : Lexer := ⟨Cursor.start s, -1, [], 0, true, [], []⟩

/-- The state with one token more. -/
def push (l : Lexer) (t : Token) : Lexer := { l with read := t :: l.read }

/-- The state with a token put in after the first `before` ones. -/
def insert (l : Lexer) (before : Nat) (t : Token) : Lexer :=
  let later := l.read.length - before
  { l with read := l.read.take later ++ t :: l.read.drop later }

/-! ## 2. Keys -/

/-- The place where a key of the innermost bracket may have begun. -/
def keyStart? (l : Lexer) : Option KeyStart := l.keys.lookup l.flow

/-- The state without the place of the innermost bracket where a key may have begun. -/
def forgetKey (l : Lexer) : Lexer :=
  { l with keys := l.keys.filter (·.1 != l.flow) }

/-- As `forgetKey`; a key whose colon is required must not be forgotten. -/
def dropKey (l : Lexer) : Except ReadError Lexer :=
  match l.keyStart? with
  | some k => if k.required then .error .malformed else .ok l.forgetKey
  | none => .ok l

/-- A key may begin here, if one is allowed. -/
def saveKey (l : Lexer) : Except ReadError Lexer :=
  if l.keyAllowed then
    match l.dropKey with
    | .error e => .error e
    | .ok l' =>
      let required := l.flow == 0 && l.indent == (l.cursor.column : Int)
      .ok { l' with
        keys := (l.flow,
          ⟨l.read.length, l.cursor.index, l.cursor.line, l.cursor.column, required⟩) :: l'.keys }
  else .ok l

/-- Is the place where a key may have begun out of reach of a colon here? -/
def isStale (l : Lexer) (k : KeyStart) : Bool :=
  k.line != l.cursor.line || maxKeyLength < l.cursor.index - k.index

/-- The state without the places that are out of reach. -/
def dropStale (l : Lexer) : Except ReadError Lexer :=
  if l.keys.any fun e => l.isStale e.2 && e.2.required then .error .malformed
  else .ok { l with keys := l.keys.filter fun e => !l.isStale e.2 }

/-! ## 3. Indentation -/

/-- Closing the block collections that begin right of a column. -/
def closeTo (column : Int) : Int → List Int → List Token → Int × List Int × List Token
  | indent, [], read => (indent, [], read)
  | indent, next :: outer, read =>
    if column < indent then closeTo column next outer (.blockEnd :: read)
    else (indent, next :: outer, read)

/-- The state with the block collections closed that begin right of a column. Inside brackets
    indentation has no meaning. -/
def unindent (l : Lexer) (column : Int) : Lexer :=
  if l.flow != 0 then l
  else
    let (indent, outer, read) := closeTo column l.indent l.outer l.read
    { l with indent, outer, read }

/-- A block collection begins at a column, unless one is open there: the state, and whether one
    began. -/
def openAt (l : Lexer) (column : Nat) : Lexer × Bool :=
  if l.indent < (column : Int) then
    ({ l with indent := column, outer := l.indent :: l.outer }, true)
  else (l, false)

/-! ## 4. Directives -/

/-- The end of the line of a directive. -/
def directiveEnd (d : Directive) (c : Cursor) : Scanned Directive :=
  let c := c.skipBlanks.skipComment
  if isLineEnd c.peek then .ok (d, c.takeBreak.2) else .error .malformed

/-- A number of a version. -/
def versionNumber (c : Cursor) : Scanned Nat :=
  let (digits, c) := c.takeSpan Char.isDigit
  if digits.isEmpty then .error .malformed
  else match readInteger? 10 digits with
    | some n => .ok (n.toNat, c)
    | none => .error (.fault .badValue)

/-- The version after the name of its directive. -/
def versionValue (c : Cursor) : Except ReadError (Directive × Cursor) := do
  let (major, c) ← versionNumber c.skipBlanks
  if c.peek != '.' then .error .malformed
  let (_, c) ← versionNumber c.advance
  if c.peek == ' ' || isLineEnd c.peek then .ok (.version major, c) else .error .malformed

/-- The handle and its meaning after the name of the directive. -/
def handleValue (c : Cursor) : Except ReadError (Directive × Cursor) := do
  let (name, c) ← scanTagHandle c.skipBlanks
  if c.peek != ' ' then .error .malformed
  let (beginning, c) ← scanTagUri c.skipBlanks
  if c.peek == ' ' || isLineEnd c.peek then .ok (.handle name beginning, c) else .error .malformed

/-- A directive, from its percent sign. -/
def scanDirective (c : Cursor) : Except ReadError (Directive × Cursor) := do
  let (name, c) := c.advance.takeSpan isNameChar
  if name.isEmpty || !(c.peek == ' ' || isLineEnd c.peek) then .error .malformed
  let (d, c) ← match String.ofList name with
    | "YAML" => versionValue c
    | "TAG" => handleValue c
    | _ => .ok (.other, (c.takeSpan fun ch => !isLineEnd ch).2)
  directiveEnd d c

/-! ## 5. One token -/

/-- After blanks, comments and line breaks. After a line break outside of brackets a key may
    begin. -/
def skipToToken : (fuel : Nat) → Lexer → Lexer
  | 0, l => l
  | fuel + 1, l =>
    let c := l.cursor.skipBlanks.skipComment
    if isBreak c.peek then
      skipToToken fuel
        { l with cursor := c.takeBreak.2, keyAllowed := l.keyAllowed || l.flow == 0 }
    else { l with cursor := c }

/-- After the mark of byte order at the very beginning. -/
def skipMark (l : Lexer) : Lexer :=
  if l.cursor.index == 0 && l.cursor.peek == byteOrderMark then
    { l with cursor := l.cursor.advance }
  else l

/-- A token of `n` characters. -/
def take (l : Lexer) (n : Nat) (t : Token) : Lexer :=
  { l.push t with cursor := l.cursor.advanceBy n }

/-- A directive, or a separator of documents: all block collections end. -/
def atDocumentLevel (l : Lexer) : Except ReadError Lexer := do
  let l ← (l.unindent (-1)).dropKey
  .ok { l with keyAllowed := false }

/-- An opening bracket. -/
def openFlow (l : Lexer) (t : Token) : Except ReadError Lexer := do
  let l ← l.saveKey
  .ok ({ l with flow := l.flow + 1, keyAllowed := true }.take 1 t)

/-- A closing bracket. One that closes nothing belongs to no document. -/
def closeFlow (l : Lexer) (t : Token) : Except ReadError Lexer := do
  let l ← l.dropKey
  if l.flow == 0 then .error .malformed
  else .ok ({ l with flow := l.flow - 1, keyAllowed := false }.take 1 t)

/-- A mark that stands before an item, a key or a value: a collection may begin with it. -/
def openBlock (l : Lexer) (t : Token) : Except ReadError Lexer :=
  if l.flow != 0 then .ok l
  else if !l.keyAllowed then .error .malformed
  else
    let (l, began) := l.openAt l.cursor.column
    .ok (if began then l.push t else l)

/-- A hyphen. -/
def blockEntry (l : Lexer) : Except ReadError Lexer := do
  let l ← l.openBlock .blockSequenceStart
  let l ← { l with keyAllowed := true }.dropKey
  .ok (l.take 1 .blockEntry)

/-- A question mark. -/
def keyMark (l : Lexer) : Except ReadError Lexer := do
  let l ← l.openBlock .blockMappingStart
  let l ← { l with keyAllowed := l.flow == 0 }.dropKey
  .ok (l.take 1 .key)

/-- A colon. If a key may have begun earlier, it did. -/
def valueMark (l : Lexer) : Except ReadError Lexer :=
  match l.keyStart? with
  | some k =>
    let l := l.forgetKey.insert k.before .key
    let (l, began) := if l.flow == 0 then l.openAt k.column else (l, false)
    let l := if began then l.insert k.before .blockMappingStart else l
    .ok ({ l with keyAllowed := false }.take 1 .value)
  | none => do
    let l ← l.openBlock .blockMappingStart
    let l ← { l with keyAllowed := l.flow == 0 }.dropKey
    .ok (l.take 1 .value)

/-- A token that a key may begin with. -/
def keyToken (l : Lexer) (scan : Cursor → Scanned Token) : Except ReadError Lexer := do
  let l ← l.saveKey
  let (t, c) ← scan l.cursor
  .ok { l.push t with cursor := c, keyAllowed := false }

/-- A plain scalar. Where it ended with its line a key may follow. -/
def plainScalar (l : Lexer) : Except ReadError Lexer := do
  let l ← l.saveKey
  let (s, broken, c) := scanPlain (l.flow != 0) l.indent l.cursor
  .ok { l.push (.scalar s true) with cursor := c, keyAllowed := broken }

/-- A block. -/
def blockScalar (folded : Bool) (l : Lexer) : Except ReadError Lexer := do
  let l ← { l with keyAllowed := true }.dropKey
  let (s, c) ← scanBlock folded l.indent l.cursor
  .ok { l.push (.scalar s false) with cursor := c }

/-- The characters that cannot begin a plain scalar. -/
def indicators : List Char :=
  ['-', '?', ':', ',', '[', ']', '\x7b', '\x7d', '#', '&', '*', '!', '|', '>', '\'', '"', '%', '@',
    Char.ofNat 96]

/-- Does a plain scalar begin here? -/
def beginsPlain (l : Lexer) : Bool :=
  let ch := l.cursor.peek
  let next := l.cursor.peekAt 1
  !(isBlankOrEnd ch || indicators.contains ch)
    || (!isBlankOrEnd next && (ch == '-' || (l.flow == 0 && (ch == '?' || ch == ':'))))

/-- Reads one token, from its first character. -/
def readToken (l : Lexer) : Except ReadError Lexer :=
  let c := l.cursor
  let ch := c.peek
  let followed := isBlankOrEnd (c.peekAt 1)
  if ch == '%' && c.column == 0 then do
    let l ← l.atDocumentLevel
    let (d, c) ← scanDirective c
    .ok { l.push (.directive d) with cursor := c }
  else if c.column == 0 && c.atSeparator then do
    let l ← l.atDocumentLevel
    .ok (l.take 3 (if ch == '-' then .documentStart else .documentEnd))
  else if ch == '[' then l.openFlow .flowSequenceStart
  else if ch == '\x7b' then l.openFlow .flowMappingStart
  else if ch == ']' then l.closeFlow .flowSequenceEnd
  else if ch == '\x7d' then l.closeFlow .flowMappingEnd
  else if ch == ',' then do
    let l ← { l with keyAllowed := true }.dropKey
    .ok (l.take 1 .flowEntry)
  else if ch == '-' && followed then l.blockEntry
  else if ch == '?' && (l.flow != 0 || followed) then l.keyMark
  else if ch == ':' && (l.flow != 0 || followed) then l.valueMark
  else if ch == '*' then l.keyToken fun c => (scanAnchorName c).map fun r => (.alias r.1, r.2)
  else if ch == '&' then l.keyToken fun c => (scanAnchorName c).map fun r => (.anchor r.1, r.2)
  else if ch == '!' then l.keyToken fun c => (scanTag c).map fun r => (.tag r.1.1 r.1.2, r.2)
  else if ch == '|' && l.flow == 0 then l.blockScalar false
  else if ch == '>' && l.flow == 0 then l.blockScalar true
  else if ch == '\'' || ch == '"' then
    l.keyToken fun c => (scanQuoted (ch == '"') c).map fun r => (.scalar r.1 false, r.2)
  else if l.beginsPlain then l.plainScalar
  else .error .malformed

/-- Reads one token after what stands before it. None at the end of the text, where all block
    collections are closed. -/
def step (l : Lexer) : Except ReadError (Lexer × Bool) := do
  let l := l.skipMark
  let l ← (l.skipToToken (l.cursor.rest.length + 1)).dropStale
  let l := l.unindent l.cursor.column
  if l.cursor.rest.isEmpty then
    let l ← (l.unindent (-1)).dropKey
    .ok (l, true)
  else
    let l ← l.readToken
    .ok (l, false)

/-- The tokens up to the end of the text or up to where it cannot be read. -/
def run : (fuel : Nat) → Lexer → List Token
  | 0, l => (Token.broken .malformed :: l.read).reverse
  | fuel + 1, l =>
    match l.step with
    | .ok (l, true) => l.read.reverse
    | .ok (l, false) => run fuel l
    | .error e => (Token.broken e :: l.read).reverse

end Lexer

/-- The tokens of a text. Every token has a character of its own, so there are no more tokens than
    characters. -/
def tokens (s : List Char) : List Token :=
  if s.all isAllowed then (Lexer.start s).run (s.length + 1)
  else [.broken .malformed]

end DomainGen.Yaml
