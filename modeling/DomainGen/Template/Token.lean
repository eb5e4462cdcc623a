import DomainGen.Fault
import DomainGen.Number.Reading
import DomainGen.Text.Blank
import DomainGen.Text.Escape
import DomainGen.Text.Identifier
import DomainGen.Text.Lines

/-!
# The tokens of a template

A template is text with tags in it: expressions in `\x7b\x7b … \x7d\x7d`, statements in
`\x7b% … %\x7d`, comments in `\x7b# … #\x7d`. Reading takes the text apart into these segments and
the inside of a tag into tokens, each with the line it stands in.

* blanks before a statement or comment go away if nothing else precedes it on its line, and so does
  the line end after it;
* a hyphen at the edge of a tag takes away all white space on that side, a plus sign keeps it;
* between `raw` and `endraw` everything is text.

`segments` gives the segments of a template. A text that cannot be taken apart to its end gives those
before the first defect, then the defect: what was read before it may be wrong for another reason.
-/

namespace DomainGen.Template

open Text

/-! ## 1. Tokens -/

/-- Why a source is no template. -/
inductive Defect where
  /-- It does not have the form of one. -/
  | form
  /-- Something in it has the form but no meaning. -/
  | fault (f : Fault)
  deriving DecidableEq, Repr, Inhabited

/-- What stands in a tag. -/
inductive Lexeme where
  | name (s : String)
  | text (s : String)
  | int (n : Nat)
  | float (x : Binary64)
  /-- An operator or a bracket. -/
  | sign (s : String)
  /-- Nothing that can be read. -/
  | broken (d : Defect)
  deriving Repr, Inhabited

/-- A token inside a tag. -/
structure Token where
  /-- What it is. -/
  lexeme : Lexeme
  /-- The line it begins in, the first being one. -/
  line : Nat
  deriving Repr, Inhabited

/-- A segment of a template. -/
inductive Segment where
  | text (s : String)
  | output (tokens : List Token)
  | statement (tokens : List Token)
  /-- What cannot be taken apart. -/
  | broken (d : Defect)
  deriving Repr, Inhabited

/-! ## 2. Numbers and names -/

/-- Is the character a decimal digit of some script? -/
def isDecimal (c : Char) : Bool := (digitValue? c).isSome

/-- Digits in groups joined by single low lines, after a first digit or low line, and the text after
    them. -/
def takeGroups (isPart : Char → Bool) : List Char → List Char × List Char
  | [] => ([], [])
  | '_' :: c :: rest =>
    if isPart c then
      let (ds, r) := takeGroups isPart rest
      (c :: ds, r)
    else ([], '_' :: c :: rest)
  | c :: rest =>
    if isPart c then
      let (ds, r) := takeGroups isPart rest
      (c :: ds, r)
    else ([], c :: rest)

/-- An unsigned number in decimal digits, and the text after it. The digits are empty exactly if none
    stands first. -/
def takeNumber (s : List Char) : List Char × List Char :=
  match s with
  | c :: _ => if isDecimal c then takeGroups isDecimal s else ([], s)
  | [] => ([], [])

/-- An exponent, and the text after it. -/
def takeExponent? (s : List Char) : Option (List Char × List Char) :=
  match s with
  | c :: rest =>
    if c == 'e' || c == 'E' then
      let (sign, body) := match rest with
        | '+' :: r => ([], r)
        | '-' :: r => (['-'], r)
        | r => ([], r)
      let (ds, r) := takeNumber body
      if ds.isEmpty then none else some ('e' :: sign ++ ds, r)
    else none
  | [] => none

/-- The decimal that some characters write, with the digits of ASCII. -/
def decimalLexeme (s : List Char) : Lexeme :=
  if s.all fun c => c.toNat < 128 then
    match readDecimal? s with
    | some x => .float x
    | none => .broken .form
  else .broken (.fault .illFormed)

/-- A decimal: with a fraction or an exponent or both. -/
def takeFloat? (s : List Char) : Option (Lexeme × List Char) := do
  let (whole, r) := takeNumber s
  if whole.isEmpty then none
  let (fraction, r') := match r with
    | '.' :: rest => takeNumber rest
    | _ => ([], r)
  let (fractionText, r) := if fraction.isEmpty then ([], r) else ('.' :: fraction, r')
  match takeExponent? r with
  | some (e, r) => some (decimalLexeme (whole ++ fractionText ++ e), r)
  | none =>
    if fraction.isEmpty then none else some (decimalLexeme (whole ++ fractionText), r)

/-- The number in a base after the mark of the base. -/
def takeBase? (base : Nat) (isPart : Char → Bool) (s : List Char) :
    Option (Lexeme × List Char) :=
  let (digits, r) := takeGroups isPart s
  if digits.isEmpty then none
  else (readDigits? base 0 digits).map fun n => (.int n, r)

/-- Is the character a digit of base 16? -/
def isHexadecimal (c : Char) : Bool :=
  isDecimal c || ('a' ≤ c && c ≤ 'f') || ('A' ≤ c && c ≤ 'F')

/-- Zeros in groups joined by single low lines. -/
def takeZeros (s : List Char) : Lexeme × List Char :=
  (.int 0, (takeGroups (· == '0') s).2)

/-- A number that begins with a digit other than zero. -/
def takeDecimal? (s : List Char) : Option (Lexeme × List Char) :=
  let (ds, r) := takeGroups isDecimal s
  if maxIntegerDigits < ds.length then some (.broken (.fault .badValue), r)
  else (readDigits? 10 0 ds).map fun n => (.int n, r)

/-- An integer. One that begins with zero is zero, unless a letter marks its base. -/
def takeInteger? (s : List Char) : Option (Lexeme × List Char) :=
  match s with
  | '0' :: c :: rest =>
    let zeros := some (takeZeros s)
    match c.toLower with
    | 'b' => takeBase? 2 (fun d => d == '0' || d == '1') rest <|> zeros
    | 'o' => takeBase? 8 (fun d => '0' ≤ d && d ≤ '7') rest <|> zeros
    | 'x' => takeBase? 16 isHexadecimal rest <|> zeros
    | _ => zeros
  | c :: _ =>
    if c == '0' then some (takeZeros s)
    else if c.isDigit then takeDecimal? s
    else none
  | [] => none

/-! ## 3. Texts in quotes -/

/-- The text in quotes that some characters write. Characters outside ASCII count as the escapes
    that denote them. -/
def quotedLexeme (inside : List Char) : Lexeme :=
  let s := escapeForeign inside
  match unescape? (s.length + 1) s with
  | some value => .text (String.ofList value)
  | none => .broken .form

/-- The inside of a text in quotes up to its closing quote, and the text after it. -/
def takeQuoted? (quote : Char) : List Char → Option (List Char × List Char)
  | [] => none
  | '\\' :: c :: rest => (takeQuoted? quote rest).map fun (s, r) => ('\\' :: c :: s, r)
  | c :: rest =>
    if c == quote then some ([], rest)
    else (takeQuoted? quote rest).map fun (s, r) => (c :: s, r)

/-! ## 4. The inside of a tag -/

/-- The operators of two characters, before those of one. -/
def longSigns : List String := ["//", "**", "==", "!=", ">=", "<="]

/-- The operators of one character and the brackets. -/
def shortSigns : List Char :=
  ['+', '-', '/', '*', '%', '~', '[', ']', '(', ')', '\x7b', '\x7d', '>', '<', '=', '.', ':', '|',
    ',', ';']

/-- The operator that stands first. -/
def takeSign? (s : List Char) : Option (String × List Char) :=
  let two := String.ofList (s.take 2)
  if longSigns.contains two then some (two, s.drop 2)
  else match s with
    | c :: rest => if shortSigns.contains c then some (String.singleton c, rest) else none
    | [] => none

/-- The bracket that closes an opening one. -/
def closingOf? (sign : String) : Option String :=
  match sign with
  | "(" => some ")"
  | "[" => some "]"
  | "\x7b" => some "\x7d"
  | _ => none

/-- The brackets that are open after one more operator, by their closing ones. A closing bracket
    must close the innermost one. -/
def bracketsAfter? (sign : String) (brackets : List String) : Option (List String) :=
  match closingOf? sign with
  | some close => some (close :: brackets)
  | none =>
    if sign == ")" || sign == "]" || sign == "\x7d" then
      match brackets with
      | close :: rest => if close == sign then some rest else none
      | [] => none
    else some brackets

/-- What stands first, and the text after it. After a point a number is an integer. -/
def takeLexeme? (afterPoint : Bool) (s : List Char) : Option (Lexeme × List Char) :=
  match s with
  | [] => none
  | c :: rest =>
    match (if afterPoint then none else takeFloat? s) <|> takeInteger? s with
    | some t => some t
    | none =>
      if continuesName c then
        let name := s.takeWhile continuesName
        if beginsName c then some (.name (String.ofList name), s.drop name.length) else none
      else if c == '\'' || c == '"' then
        (takeQuoted? c rest).map fun (inside, r) => (quotedLexeme inside, r)
      else (takeSign? s).map fun (t, r) => (.sign t, r)

/-- The line ends among some characters. -/
def lineEnds (s : List Char) : Nat := s.count '\n'

/-- What was read of a text of which some is left. -/
def passed (before after : List Char) : List Char := before.take (before.length - after.length)

/-- The end of a tag: what it looks like to the reader of the inside. -/
inductive TagKind where
  | output
  | statement
  deriving DecidableEq, Repr

/-- After white space. -/
def skipSpace (s : List Char) : List Char := s.dropWhile isBlank

/-- After one line feed, if one stands first. -/
def skipLineFeed : List Char → List Char
  | '\n' :: rest => rest
  | s => s

/-- The text after the end of a tag, if the tag ends here. -/
def tagEnd? (kind : TagKind) (s : List Char) : Option (List Char) :=
  match kind, s with
  | .output, '-' :: '\x7d' :: '\x7d' :: rest => some (skipSpace rest)
  | .output, '\x7d' :: '\x7d' :: rest => some rest
  | .statement, '-' :: '%' :: '\x7d' :: rest => some (skipSpace rest)
  | .statement, '+' :: '%' :: '\x7d' :: rest => some rest
  | .statement, '%' :: '\x7d' :: rest => some (skipLineFeed rest)
  | _, _ => none

/-- The line ends in what stands first: only texts in quotes hold any. -/
def lexemeLines (lexeme : Lexeme) (before after : List Char) : Nat :=
  match lexeme with
  | .text _ => lineEnds (passed before after)
  | _ => 0

/-- The tokens up to the end of a tag and, if they are sound, the text after it. A tag does not end
    inside brackets. -/
def takeInside (kind : TagKind) : (fuel : Nat) → (brackets : List String) →
    (afterPoint : Bool) → (line : Nat) → List Char → List Token × Option (List Char)
  | 0, _, _, line, _ => ([⟨.broken .form, line⟩], none)
  | fuel + 1, brackets, afterPoint, line, s =>
    let ending := if brackets.isEmpty then tagEnd? kind s else none
    match ending with
    | some rest => ([], some rest)
    | none => match s with
      | [] => ([⟨.broken .form, line⟩], none)
      | c :: rest =>
        if isBlank c then
          takeInside kind fuel brackets false (if c == '\n' then line + 1 else line) rest
        else match takeLexeme? afterPoint s with
          | none => ([⟨.broken .form, line⟩], none)
          | some (.broken d, _) => ([⟨.broken d, line⟩], none)
          | some (x, rest) =>
            let brackets := match x with
              | .sign sign => bracketsAfter? sign brackets
              | _ => some brackets
            match brackets with
            | none => ([⟨.broken .form, line⟩], none)
            | some brackets =>
              let isPoint := match x with
                | .sign "." => true
                | _ => false
              let (ts, r) :=
                takeInside kind fuel brackets isPoint (line + lexemeLines x s rest) rest
              (⟨x, line⟩ :: ts, r)

/-! ## 5. Segments -/

/-- What opens a tag. -/
inductive Opening where
  | output
  | statement
  | comment
  /-- The whole tag `raw`. -/
  | raw
  deriving DecidableEq, Repr

/-- A mark at the edge of a tag. -/
inductive Trim where
  /-- As the rules for blanks say. -/
  | normal
  /-- All white space goes. -/
  | all
  /-- All white space stays. -/
  | none
  deriving DecidableEq, Repr

/-- The mark that stands first, and the text after it. -/
def takeTrim : List Char → Trim × List Char
  | '-' :: rest => (.all, rest)
  | '+' :: rest => (.none, rest)
  | s => (.normal, s)

/-- The text after a given one, if that stands first. -/
def after? (word : List Char) (s : List Char) : Option (List Char) :=
  if word.isPrefixOf s then some (s.drop word.length) else none

/-- The text after a tag `raw`, from the mark after its opening. -/
def rawTag? (s : List Char) : Option (List Char) := do
  let s ← after? "raw".toList (skipSpace (takeTrim s).2)
  match skipSpace s with
  | '-' :: '%' :: '\x7d' :: rest => some (skipSpace rest)
  | '%' :: '\x7d' :: rest => some rest
  | _ => none

/-- The tag that opens here, its mark, and the text after both. -/
def opening? : List Char → Option (Opening × Trim × List Char)
  | '\x7b' :: '%' :: rest =>
    let (trim, r) := takeTrim rest
    match rawTag? rest with
    | some r => some (.raw, trim, r)
    | none => some (.statement, trim, r)
  | '\x7b' :: '\x7b' :: rest => let (trim, r) := takeTrim rest; some (.output, trim, r)
  | '\x7b' :: '#' :: rest => let (trim, r) := takeTrim rest; some (.comment, trim, r)
  | _ => none

/-- The text before the first tag, and the tag with the text after it. -/
def takeText : List Char → List Char × Option (Opening × Trim × List Char)
  | [] => ([], none)
  | c :: rest =>
    match opening? (c :: rest) with
    | some o => ([], some o)
    | none => let (t, o) := takeText rest; (c :: t, o)

/-- A text without the white space at its end. -/
def trimEnd (s : List Char) : List Char := (s.reverse.dropWhile isBlank).reverse

/-- A text without the white space after its last line feed, if there is nothing else. Without a
    line feed the text must stand at the beginning of a line. -/
def trimLine (atLineStart : Bool) (s : List Char) : List Char :=
  let last := (s.reverse.takeWhile (· != '\n')).reverse
  if last.all isBlank && (atLineStart || last.length < s.length) then
    s.take (s.length - last.length)
  else s

/-- The text before a tag as the mark of the tag leaves it. -/
def trimBefore (o : Opening) (trim : Trim) (atLineStart : Bool) (s : List Char) : List Char :=
  match trim with
  | .all => trimEnd s
  | .none => s
  | .normal => if o == .output then s else trimLine atLineStart s

/-- The text after a comment. -/
def commentEnd? : List Char → Option (List Char)
  | [] => none
  | '-' :: '#' :: '\x7d' :: rest => some (skipSpace rest)
  | '+' :: '#' :: '\x7d' :: rest => some rest
  | '#' :: '\x7d' :: rest => some (skipLineFeed rest)
  | _ :: rest => commentEnd? rest

/-- The text after a tag `endraw` and the mark of the tag, if the tag stands here. -/
def endRaw? (s : List Char) : Option (Trim × List Char) := do
  let s ← after? ['\x7b', '%'] s
  let (trim, s) := takeTrim s
  let s ← after? "endraw".toList (skipSpace s)
  let rest ← tagEnd? .statement (skipSpace s)
  some (trim, rest)

/-- The text up to a tag `endraw`, the mark of the tag, and the text after it. -/
def takeRaw? : List Char → Option (List Char × Trim × List Char)
  | [] => none
  | c :: rest =>
    match endRaw? (c :: rest) with
    | some (trim, r) => some ([], trim, r)
    | none => (takeRaw? rest).map fun (t, trim, r) => (c :: t, trim, r)

/-- The segments of what is never closed: a defect, unless the source ends right after the opening. -/
def unclosed (inside : List Char) : List Segment :=
  if inside.isEmpty then [] else [.broken .form]

/-- The segments from here on, this being a given line. -/
def segmentsFrom : (fuel : Nat) → (atLineStart : Bool) → (line : Nat) → List Char → List Segment
  | 0, _, _, _ => [.broken .form]
  | fuel + 1, atLineStart, line, s =>
    let (text, tag) := takeText s
    match tag with
    | none => [.text (String.ofList text)]
    | some (o, trim, inside) =>
      let before := Segment.text (String.ofList (trimBefore o trim atLineStart text))
      let opened := line + lineEnds (passed s inside)
      let continueAfter (rest : List Char) : List Segment :=
        let inTag := passed inside rest
        segmentsFrom fuel (inTag.getLast? == some '\n') (opened + lineEnds inTag) rest
      match o with
      | .output => match takeInside .output (inside.length + 1) [] false opened inside with
        | (ts, some rest) => before :: .output ts :: continueAfter rest
        | (ts, none) => [before, .output ts]
      | .statement => match takeInside .statement (inside.length + 1) [] false opened inside with
        | (ts, some rest) => before :: .statement ts :: continueAfter rest
        | (ts, none) => [before, .statement ts]
      | .comment => match commentEnd? inside with
        | some rest => before :: continueAfter rest
        | none => before :: unclosed inside
      | .raw => match takeRaw? inside with
        | some (raw, trim, rest) =>
          let atStart := (passed s inside).getLast? == some '\n'
          before :: .text (String.ofList (trimBefore .raw trim atStart raw)) :: continueAfter rest
        | none => before :: unclosed inside

/-- The segments of a template. All line ends count as line feeds. -/
def segments (source : String) : List Segment :=
  let s := unifyLineEnds source.toList
  segmentsFrom (s.length + 1) true 1 s

end DomainGen.Template
