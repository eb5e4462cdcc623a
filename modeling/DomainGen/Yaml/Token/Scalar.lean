import DomainGen.Yaml.Cursor
import DomainGen.Fault
import DomainGen.Text.Encoding

/-!
# Scalars and names in a YAML text

The parts of a text that are read as one token: scalars in their four styles, the names of anchors
and directives, tags.

* `scanQuoted` : between single or double quotes, with escapes in double quotes;
* `scanBlock` : literal and folded blocks, with their indentation and chomping indicators;
* `scanPlain` : without quotes; also says whether the scalar ended at the beginning of a line;
* `scanAnchorName`, `scanTag`, `scanTagHandle`, `scanTagUri`.

Each takes the place where its token begins and gives back what was read with the place after it.
`fuel` bounds the number of lines or parts and is the number of characters that are left.
-/

namespace DomainGen.Yaml

/-- Why a text is not read. -/
inductive ReadError where
  /-- The text is not a YAML document of a safe kind. -/
  | malformed
  /-- A scalar has the form of a typed value but denotes none. -/
  | fault (f : Fault)
  deriving DecidableEq, Repr, Inhabited

/-- What was read and the place after it. -/
abbrev Scanned (α : Type) := Except ReadError (α × Cursor)

/-! ## 1. Quoted scalars -/

/-- The character an escape letter stands for. -/
def escapeLetter? (c : Char) : Option Char :=
  match c with
  | '0' => some '\x00'
  | 'a' => some '\x07'
  | 'b' => some '\x08'
  | 't' => some '\t'
  | '\t' => some '\t'
  | 'n' => some '\n'
  | 'v' => some '\x0b'
  | 'f' => some '\x0c'
  | 'r' => some '\r'
  | 'e' => some '\x1b'
  | ' ' => some ' '
  | '"' => some '"'
  | '\\' => some '\\'
  | '/' => some '/'
  | 'N' => some (Char.ofNat 0x85)
  | '_' => some (Char.ofNat 0xa0)
  | 'L' => some (Char.ofNat 0x2028)
  | 'P' => some (Char.ofNat 0x2029)
  | _ => none

/-- How many hexadecimal digits follow an escape letter. -/
def escapeDigits? (c : Char) : Option Nat :=
  match c with
  | 'x' => some 2
  | 'u' => some 4
  | 'U' => some 8
  | _ => none

/-- The value of a hexadecimal digit. -/
def hexValue? (c : Char) : Option Nat :=
  if '0' ≤ c && c ≤ '9' then some (c.toNat - 48)
  else if 'a' ≤ c && c ≤ 'f' then some (c.toNat - 87)
  else if 'A' ≤ c && c ≤ 'F' then some (c.toNat - 55)
  else none

/-- The number some hexadecimal digits denote. -/
def hexNumber? (ds : List Char) : Option Nat :=
  (ds.mapM hexValue?).map fun vs => vs.foldl (fun n v => n * 16 + v) 0

/-- The character with a code point. A code point beyond the last one has none. -/
def charOfCode (n : Nat) : Except ReadError Char :=
  if n < 0x110000 then .ok (Char.ofNat n)
  else if n < 0x80000000 then .error (.fault .badValue)
  else .error (.fault .overflow)

/-- The line breaks that follow one inside a quoted scalar. A separator of documents must not
    begin a line there. -/
def scanQuotedBreaks : (fuel : Nat) → Cursor → Scanned (List Char)
  | 0, _ => .error .malformed
  | fuel + 1, c =>
    if c.atSeparator then .error .malformed
    else
      let c := (c.takeSpan fun ch => ch == ' ' || ch == '\t').2
      if isBreak c.peek then
        let (br, c) := c.takeBreak
        match scanQuotedBreaks fuel c with
        | .ok (more, c) => .ok (br ++ more, c)
        | .error e => .error e
      else .ok ([], c)

/-- What a line break and the breaks after it read as: one break is a blank, of several the first
    is dropped. -/
def foldBreaks (first more : List Char) : List Char :=
  if first != ['\n'] then first ++ more
  else if more.isEmpty then [' ']
  else more

/-- An escape in double quotes, from the character after the backslash. -/
def scanEscape (c : Cursor) : Scanned (List Char) :=
  match escapeLetter? c.peek with
  | some ch => .ok ([ch], c.advance)
  | none =>
    match escapeDigits? c.peek with
    | some n =>
      let c := c.advance
      let ds := c.rest.take n
      if ds.length < n then .error .malformed
      else match hexNumber? ds with
        | none => .error .malformed
        | some code => match charOfCode code with
          | .ok ch => .ok ([ch], c.advanceBy n)
          | .error e => .error e
    | none =>
      if isBreak c.peek then
        let c := c.takeBreak.2
        scanQuotedBreaks (c.rest.length + 1) c
      else .error .malformed

/-- The rest of a quoted scalar after its opening quote. -/
def scanQuotedRest (double : Bool) : (fuel : Nat) → Cursor → Scanned (List Char)
  | 0, _ => .error .malformed
  | fuel + 1, c =>
    let continueWith (part : List Char) (c : Cursor) : Scanned (List Char) :=
      match scanQuotedRest double fuel c with
      | .ok (more, c) => .ok (part ++ more, c)
      | .error e => .error e
    let ch := c.peek
    if ch == endMark then .error .malformed
    else if ch == '\'' && !double then
      if c.peekAt 1 == '\'' then continueWith ['\''] (c.advanceBy 2) else .ok ([], c.advance)
    else if ch == '"' && double then .ok ([], c.advance)
    else if ch == '\\' && double then
      match scanEscape c.advance with
      | .ok (part, c) => continueWith part c
      | .error e => .error e
    else if ch == ' ' || ch == '\t' || isBreak ch then
      let (blanks, c) := c.takeSpan fun ch => ch == ' ' || ch == '\t'
      if c.peek == endMark then .error .malformed
      else if isBreak c.peek then
        let (br, c) := c.takeBreak
        match scanQuotedBreaks (c.rest.length + 1) c with
        | .ok (more, c) => continueWith (foldBreaks br more) c
        | .error e => .error e
      else continueWith blanks c
    else
      let (part, c) := c.takeSpan fun ch =>
        !(ch == '\'' || ch == '"' || ch == '\\' || isBlankOrEnd ch)
      if part.isEmpty then continueWith [ch] c.advance else continueWith part c

/-- A quoted scalar, from its opening quote. -/
def scanQuoted (double : Bool) (c : Cursor) : Scanned String :=
  match scanQuotedRest double (c.rest.length + 1) c.advance with
  | .ok (s, c) => .ok (String.ofList s, c)
  | .error e => .error e

/-! ## 2. Blocks -/

/-- What happens to the line breaks at the end of a block. -/
inductive Chomping where
  /-- One is kept. -/
  | clip
  /-- None is kept. -/
  | strip
  /-- All are kept. -/
  | keep
  deriving DecidableEq, Repr, Inhabited

/-- A chomping indicator. -/
def chompingOf? (c : Char) : Option Chomping :=
  if c == '+' then some .keep else if c == '-' then some .strip else none

/-- The header of a block after its first character: chomping and indentation in either order. -/
def scanBlockHeader (c : Cursor) : Scanned (Chomping × Option Nat) :=
  let digit? (ch : Char) : Option Nat := if ch.isDigit then some (ch.toNat - 48) else none
  let finish (chomping : Chomping) (increment : Option Nat) (c : Cursor) :
      Scanned (Chomping × Option Nat) :=
    if increment == some 0 then .error .malformed
    else if c.peek == ' ' || isLineEnd c.peek then
      let c := c.skipBlanks.skipComment
      if isLineEnd c.peek then .ok ((chomping, increment), c.takeBreak.2) else .error .malformed
    else .error .malformed
  match chompingOf? c.peek with
  | some chomping =>
    let c := c.advance
    match digit? c.peek with
    | some n => finish chomping (some n) c.advance
    | none => finish chomping none c
  | none =>
    match digit? c.peek with
    | some n =>
      let c := c.advance
      match chompingOf? c.peek with
      | some chomping => finish chomping (some n) c.advance
      | none => finish .clip (some n) c
    | none => finish .clip none c

/-- The blank lines before the first line of a block whose indentation is not given, the largest
    column reached, and the place after them. -/
def scanLeadingBreaks : (fuel : Nat) → Nat → Cursor → List Char × Nat × Cursor
  | 0, widest, c => ([], widest, c)
  | fuel + 1, widest, c =>
    if isBreak c.peek then
      let (br, c) := c.takeBreak
      let (more, widest, c) := scanLeadingBreaks fuel widest c
      (br ++ more, widest, c)
    else if c.peek == ' ' then
      let c := c.advance
      scanLeadingBreaks fuel (max widest c.column) c
    else ([], widest, c)

/-- After the indentation of a line, at most to a column. -/
def skipIndentation (indent : Nat) (c : Cursor) : Cursor :=
  c.advanceBy ((c.rest.takeWhile (· == ' ')).length.min (indent - c.column))

/-- The line breaks before the next line of a block of known indentation. -/
def scanBlockBreaks (indent : Nat) : (fuel : Nat) → Cursor → List Char × Cursor
  | 0, c => ([], c)
  | fuel + 1, c =>
    let c := skipIndentation indent c
    if isBreak c.peek then
      let (br, c) := c.takeBreak
      let (more, c) := scanBlockBreaks indent fuel c
      (br ++ more, c)
    else ([], c)

/-- The lines of a block. `breaks` are the line breaks before the first of them, `lineBreak` the
    break that ended the line before; the answer ends with the break after the last line and the
    breaks that follow it, kept apart for chomping. -/
def scanBlockLines (folded : Bool) (indent : Nat) :
    (fuel : Nat) → (breaks lineBreak : List Char) → Cursor →
      List Char × List Char × List Char × Cursor
  | 0, breaks, lineBreak, c => ([], lineBreak, breaks, c)
  | fuel + 1, breaks, lineBreak, c =>
    if c.column == indent && c.peek != endMark then
      let flush := c.peek != ' ' && c.peek != '\t'
      let (line, c) := c.takeSpan fun ch => !isLineEnd ch
      let (lineBreak, c) := c.takeBreak
      let (nextBreaks, c) := scanBlockBreaks indent (c.rest.length + 1) c
      if c.column == indent && c.peek != endMark then
        let joint :=
          if folded && lineBreak == ['\n'] && flush && c.peek != ' ' && c.peek != '\t' then
            (if nextBreaks.isEmpty then [' '] else [])
          else lineBreak
        let (more, lineBreak, lastBreaks, c) :=
          scanBlockLines folded indent fuel nextBreaks lineBreak c
        (breaks ++ line ++ joint ++ more, lineBreak, lastBreaks, c)
      else (breaks ++ line, lineBreak, nextBreaks, c)
    else ([], lineBreak, breaks, c)

/-- A block, from its first character. `parent` is the column of the collection it stands in. -/
def scanBlock (folded : Bool) (parent : Int) (c : Cursor) : Scanned String :=
  match scanBlockHeader c.advance with
  | .error e => .error e
  | .ok ((chomping, increment), c) =>
    let least := (max (parent + 1) 1).toNat
    let (breaks, indent, c) := match increment with
      | none =>
        let (breaks, widest, c) := scanLeadingBreaks (c.rest.length + 1) 0 c
        (breaks, max least widest, c)
      | some n =>
        let indent := least + n - 1
        let (breaks, c) := scanBlockBreaks indent (c.rest.length + 1) c
        (breaks, indent, c)
    let (body, lineBreak, lastBreaks, c) :=
      scanBlockLines folded indent (c.rest.length + 1) breaks [] c
    let tail := match chomping with
      | .strip => []
      | .clip => lineBreak
      | .keep => lineBreak ++ lastBreaks
    .ok (String.ofList (body ++ tail), c)

/-! ## 3. Plain scalars -/

/-- Does a plain scalar stop at a character, given the one after it? -/
def stopsPlain (flow : Bool) (ch next : Char) : Bool :=
  isBlankOrEnd ch
    || (ch == ':' && (isBlankOrEnd next || (flow && [',', '[', ']', '\x7b', '\x7d'].contains next)))
    || (flow && [',', '?', '[', ']', '\x7b', '\x7d'].contains ch)

/-- The characters of a plain scalar up to where it stops. -/
def plainSpan (flow : Bool) : List Char → List Char
  | [] => []
  | ch :: rest =>
    if stopsPlain flow ch (rest.headD endMark) then [] else ch :: plainSpan flow rest

/-- The line breaks and blanks after the first line break inside a plain scalar. None if a
    separator of documents follows. -/
def scanPlainBreaks : (fuel : Nat) → Cursor → Option (List Char × Cursor) × Cursor
  | 0, c => (none, c)
  | fuel + 1, c =>
    if c.peek == ' ' then scanPlainBreaks fuel c.advance
    else if isBreak c.peek then
      let (br, c) := c.takeBreak
      if c.atSeparator then (none, c)
      else match scanPlainBreaks fuel c with
        | (some (more, c), d) => (some (br ++ more, c), d)
        | (none, d) => (none, d)
    else (some ([], c), c)

/-- What stands between two parts of a plain scalar. -/
structure PlainGap where
  /-- How it reads. -/
  text : List Char
  /-- Did it contain a line break? -/
  broken : Bool
  /-- The place after it. -/
  after : Cursor

/-- Blanks and line breaks after a part of a plain scalar. -/
def scanPlainGap (c : Cursor) : PlainGap :=
  let (blanks, c) := c.takeSpan (· == ' ')
  if isBreak c.peek then
    let (br, c) := c.takeBreak
    if c.atSeparator then ⟨[], true, c⟩
    else match scanPlainBreaks (c.rest.length + 1) c with
      | (some (more, c), _) => ⟨foldBreaks br more, true, c⟩
      | (none, c) => ⟨[], true, c⟩
  else ⟨blanks, false, c⟩

/-- The parts of a plain scalar, `gap` standing before the next one. The answer says whether a line
    break came after the last part. -/
def scanPlainParts (flow : Bool) (indent : Int) :
    (fuel : Nat) → (gap : List Char) → (broken : Bool) → Cursor → List Char × Bool × Cursor
  | 0, _, broken, c => ([], broken, c)
  | fuel + 1, gap, broken, c =>
    let part := if c.peek == '#' then [] else plainSpan flow c.rest
    if part.isEmpty then ([], broken, c)
    else
      let next := scanPlainGap (c.advanceBy part.length)
      let c := next.after
      if next.text.isEmpty || c.peek == '#' || (!flow && (c.column : Int) < indent) then
        (gap ++ part, next.broken, c)
      else
        let (more, broken, c) := scanPlainParts flow indent fuel next.text next.broken c
        (gap ++ part ++ more, broken, c)

/-- A plain scalar, and whether the place after it was reached by a line break. `parent` is the
    column of the collection it stands in. -/
def scanPlain (flow : Bool) (parent : Int) (c : Cursor) : String × Bool × Cursor :=
  let (s, broken, c) := scanPlainParts flow (parent + 1) (c.rest.length + 1) [] false c
  (String.ofList s, broken, c)

/-! ## 4. Names and tags -/

/-- The name of an anchor or an alias, from the character before it. -/
def scanAnchorName (c : Cursor) : Scanned String :=
  let (name, c) := c.advance.takeSpan isNameChar
  let next := c.peek
  if name.isEmpty then .error .malformed
  else if isBlankOrEnd next
      || ['?', ':', ',', ']', '\x7d', '%', '@', Char.ofNat 96].contains next then
    .ok (String.ofList name, c)
  else .error .malformed

/-- The handle of a tag: an exclamation mark, or two with a name between them. -/
def scanTagHandle (c : Cursor) : Scanned String :=
  if c.peek != '!' then .error .malformed
  else if c.peekAt 1 == ' ' then .ok ("!", c.advance)
  else
    let name := (c.rest.drop 1).takeWhile isNameChar
    if c.peekAt (name.length + 1) == '!' then
      .ok (String.ofList ('!' :: name ++ ['!']), c.advanceBy (name.length + 2))
    else .error .malformed

/-- The characters of a tag besides letters and digits. -/
def isUriChar (c : Char) : Bool :=
  c.isAlphanum || "-;/?:@&=+$,_.!~*'()[]%".toList.contains c

/-- Bytes written as a percent sign and two hexadecimal digits each. -/
def scanUriBytes : (fuel : Nat) → Cursor → Scanned (List UInt8)
  | 0, _ => .error .malformed
  | fuel + 1, c =>
    if c.peek == '%' then
      match hexValue? (c.peekAt 1), hexValue? (c.peekAt 2) with
      | some a, some b => match scanUriBytes fuel (c.advanceBy 3) with
        | .ok (more, c) => .ok (UInt8.ofNat (a * 16 + b) :: more, c)
        | .error e => .error e
      | _, _ => .error .malformed
    else .ok ([], c)

/-- The characters of a tag up to where it stops. -/
def scanUriParts : (fuel : Nat) → Cursor → Scanned (List Char)
  | 0, _ => .error .malformed
  | fuel + 1, c =>
    if c.peek == '%' then
      match scanUriBytes (c.rest.length + 1) c with
      | .error e => .error e
      | .ok (bytes, c) => match Utf8.decode bytes with
        | none => .error .malformed
        | some s => match scanUriParts fuel c with
          | .ok (more, c) => .ok (s ++ more, c)
          | .error e => .error e
    else
      let (part, c) := c.takeSpan fun ch => isUriChar ch && ch != '%'
      if part.isEmpty then .ok ([], c)
      else match scanUriParts fuel c with
        | .ok (more, c) => .ok (part ++ more, c)
        | .error e => .error e

/-- The part of a tag after its handle. -/
def scanTagUri (c : Cursor) : Scanned String :=
  if !isUriChar c.peek then .error .malformed
  else match scanUriParts (c.rest.length + 1) c with
    | .ok (s, c) => .ok (String.ofList s, c)
    | .error e => .error e

/-- A tag, from its exclamation mark: its handle, if it has one, and the part after it. -/
def scanTag (c : Cursor) : Scanned (Option String × String) :=
  let read : Scanned (Option String × String) :=
    if c.peekAt 1 == '<' then
      match scanTagUri (c.advanceBy 2) with
      | .error e => .error e
      | .ok (s, c) => if c.peek == '>' then .ok ((none, s), c.advance) else .error .malformed
    else if isBlankOrEnd (c.peekAt 1) then .ok ((none, "!"), c.advance)
    else
      let word := (c.rest.drop 1).takeWhile fun ch => !(ch == ' ' || isLineEnd ch)
      let handle : Scanned String :=
        if word.contains '!' then scanTagHandle c else .ok ("!", c.advance)
      match handle with
      | .error e => .error e
      | .ok (h, c) => match scanTagUri c with
        | .error e => .error e
        | .ok (s, c) => .ok ((some h, s), c)
  match read with
  | .error e => .error e
  | .ok (t, c) => if c.peek == ' ' || isLineEnd c.peek then .ok (t, c) else .error .malformed

end DomainGen.Yaml
