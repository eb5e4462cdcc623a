/-!
# Encodings with a byte or two a character

How East Asian writing is stored: characters of ASCII in the byte that is their code point, others
mostly in two bytes, which name a place in a table. Some encodings have further characters in three,
four or eight bytes.

* `DoubleByte` : an encoding; `DoubleByte.encode`, `DoubleByte.decode` : the bytes of a text and the
  text of bytes;
* `Layout` : which bytes name which place.

A table is written in lines of 94 characters, which is also the length of a row in the oldest
layout. **A line stands under its number, and the first line of a number counts.**
-/

namespace DomainGen.Text

namespace DoubleByte

/-! ## 1. Tables -/

/-- The length of a line. -/
def lineLength : Nat := 94

/-- What stands in a line where there is no character. -/
def gap : Char := Char.ofNat 0xfffd

/-- A line without characters. -/
def noLine : String := String.ofList (List.replicate lineLength gap)

/-- Lines under their numbers. -/
abbrev Lines := List (Nat × String)

/-- Lines numbered from zero on. -/
def numbered (lines : List String) : Lines :=
  lines.zipIdx.map fun (l, i) => (i, l)

/-- Lines with some of them replaced, and further ones after them. -/
def replaceLines (lines others : Lines) : Lines :=
  (lines.map fun l => (l.1, (others.lookup l.1).getD l.2))
    ++ others.filter fun l => (lines.lookup l.1).isNone

/-- The character at a place. -/
def charAt? (lines : Lines) (place : Nat) : Option Char := do
  let line ← lines.lookup (place / lineLength)
  let c ← line.toList[place % lineLength]?
  if c == gap then none else some c

/-- The first place of a character. -/
def placeOf? (lines : Lines) (c : Char) : Option Nat :=
  if c == gap then none
  else lines.findSome? fun l =>
    (l.2.toList.findIdx? (· == c)).map fun i => l.1 * lineLength + i

/-! ## 2. Layouts -/

/-- Which bytes name which place. -/
inductive Layout where
  /-- A row and a column of 94, both from 0xa1 on. -/
  | square
  /-- Two rows of 94 under one first byte. -/
  | folded
  /-- A first byte from `lead` on; the second one is from 0x40 on, and after 63 columns from `upper`
      on. -/
  | wide (lead upper : Nat)
  deriving DecidableEq, Repr, Inhabited

namespace Layout

/-- The columns of a second byte below 0x7f. -/
def lowColumns : Nat := 63

/-- The number of columns of a wide layout. -/
def columns (upper : Nat) : Nat := lowColumns + (0xff - upper)

/-- The place that two bytes name. -/
def place? (l : Layout) (a b : Nat) : Option Nat :=
  match l with
  | square =>
    if 0xa1 ≤ a && a < 0xff && 0xa1 ≤ b && b < 0xff then
      some ((a - 0xa1) * lineLength + (b - 0xa1))
    else none
  | folded =>
    let pair := if a < 0xa0 then a - 0x81 else a - 0xc1
    if !((0x81 ≤ a && a < 0xa0) || (0xe0 ≤ a && a < 0xfd)) then none
    else if 0x40 ≤ b && b < 0x7f then some (2 * pair * lineLength + (b - 0x40))
    else if 0x80 ≤ b && b < 0x9f then some (2 * pair * lineLength + (b - 0x41))
    else if 0x9f ≤ b && b < 0xfd then some ((2 * pair + 1) * lineLength + (b - 0x9f))
    else none
  | wide lead upper =>
    if !(lead ≤ a && a < 0xff) then none
    else if 0x40 ≤ b && b < 0x7f then some ((a - lead) * columns upper + (b - 0x40))
    else if upper ≤ b && b < 0xff then
      some ((a - lead) * columns upper + lowColumns + (b - upper))
    else none

/-- The two bytes that name a place. -/
def bytesOf (l : Layout) (place : Nat) : List Nat :=
  match l with
  | square => [0xa1 + place / lineLength, 0xa1 + place % lineLength]
  | folded =>
    let row := place / lineLength
    let column := place % lineLength
    let a := if row < 62 then 0x81 + row / 2 else 0xc1 + row / 2
    let b :=
      if row % 2 == 1 then 0x9f + column
      else if column < lowColumns then 0x40 + column
      else 0x41 + column
    [a, b]
  | wide lead upper =>
    let column := place % columns upper
    [lead + place / columns upper,
      if column < lowColumns then 0x40 + column else upper + (column - lowColumns)]

end Layout

/-! ## 3. Characters beside the table -/

/-- Characters with consecutive code points in consecutive bytes. -/
structure Run where
  /-- The bytes before the last one, the same for all. -/
  before : List Nat
  /-- The last byte of the first character. -/
  first : Nat
  /-- The code point of the first character. -/
  code : Nat
  /-- How many characters there are. -/
  count : Nat
  deriving DecidableEq, Repr, Inhabited

/-- The character of a run that some bytes are. -/
def Run.char? (r : Run) (before : List Nat) (last : Nat) : Option Char :=
  if r.before == before && r.first ≤ last && last < r.first + r.count then
    some (Char.ofNat (r.code + (last - r.first)))
  else none

/-- The bytes of a character of a run. -/
def Run.bytes? (r : Run) (c : Char) : Option (List Nat) :=
  let n := c.toNat
  if r.code ≤ n && n < r.code + r.count then some (r.before ++ [r.first + (n - r.code)]) else none

/-- Stretches of code points, each by its first one and its length. -/
abbrev Stretches := List (Nat × Nat)

/-- The code point with a number of others before it. -/
def codeAt? : Stretches → Nat → Option Nat
  | [], _ => none
  | (code, count) :: rest, i => if i < count then some (code + i) else codeAt? rest (i - count)

/-- How many code points there are before one. -/
def numberOf? (n : Nat) : Stretches → Option Nat
  | [] => none
  | (code, count) :: rest =>
    if code ≤ n && n < code + count then some (n - code) else (numberOf? n rest).map (count + ·)

/-! ## 4. Three, four and eight bytes -/

/-- The number that four bytes are, each pair a byte from 0x81 on and a digit. -/
def quadNumber? (a b c d : Nat) : Option Nat :=
  let isLead (n : Nat) : Bool := 0x81 ≤ n && n < 0xff
  let isDigit (n : Nat) : Bool := 0x30 ≤ n && n < 0x3a
  if isLead a && isDigit b && isLead c && isDigit d then
    some ((((a - 0x81) * 10 + (b - 0x30)) * 126 + (c - 0x81)) * 10 + (d - 0x30))
  else none

/-- The four bytes that are a number. -/
def quadBytes (n : Nat) : List Nat :=
  [0x81 + n / 12600, 0x30 + n / 1260 % 10, 0x81 + n / 10 % 126, 0x30 + n % 10]

/-- The number of the first code point above 65535. -/
def highNumber : Nat := 189000

/-- The character of a number. -/
def quadChar? (stretches : Stretches) (n : Nat) : Option Char :=
  match codeAt? stretches n with
  | some code => some (Char.ofNat code)
  | none =>
    let code := 0x10000 + (n - highNumber)
    if highNumber ≤ n && code.isValidChar then some (Char.ofNat code) else none

/-- The number of a character. -/
def quadOf? (stretches : Stretches) (c : Char) : Option Nat :=
  let n := c.toNat
  if 0x10000 ≤ n then some (highNumber + (n - 0x10000)) else numberOf? n stretches

/-- The byte before the two of a second table. -/
def secondTable : Nat := 0x8f

/-- The first letters of syllables, by the last of their two bytes. -/
def firstLetters : List Nat :=
  [0xa1, 0xa2, 0xa4, 0xa7, 0xa8, 0xa9, 0xb1, 0xb2, 0xb3, 0xb5, 0xb6, 0xb7, 0xb8, 0xb9, 0xba, 0xbb,
    0xbc, 0xbd, 0xbe]

/-- The last letters of syllables; that of none is a filler. -/
def lastLetters : List Nat :=
  [0xd4, 0xa1, 0xa2, 0xa3, 0xa4, 0xa5, 0xa6, 0xa7, 0xa9, 0xaa, 0xab, 0xac, 0xad, 0xae, 0xaf, 0xb0,
    0xb1, 0xb2, 0xb4, 0xb5, 0xb6, 0xb7, 0xb8, 0xba, 0xbb, 0xbc, 0xbd, 0xbe]

/-- The vowel of the first syllables; the others follow it. -/
def firstVowel : Nat := 0xbf

/-- How many vowels there are. -/
def vowelCount : Nat := 21

/-- The byte before each letter. -/
def letterMark : Nat := 0xa4

/-- The code point of the first syllable. -/
def firstSyllable : Nat := 0xac00

/-- The syllable that a filler and three letters make up. -/
def syllable? (bytes : List Nat) : Option Char :=
  match bytes with
  | [m, filler, m1, a, m2, b, m3, c] => do
    if !([m, m1, m2, m3].all (· == letterMark) && filler == 0xd4) then none
    let first ← firstLetters.findIdx? (· == a)
    let last ← lastLetters.findIdx? (· == c)
    if !(firstVowel ≤ b && b < firstVowel + vowelCount) then none
    let number := (first * vowelCount + (b - firstVowel)) * lastLetters.length + last
    some (Char.ofNat (firstSyllable + number))
  | _ => none

/-- The bytes of a syllable as a filler and three letters. -/
def syllableBytes? (c : Char) : Option (List Nat) := do
  let number := c.toNat - firstSyllable
  if c.toNat < firstSyllable then none
  let first ← firstLetters[number / lastLetters.length / vowelCount]?
  let last ← lastLetters[number % lastLetters.length]?
  some [letterMark, 0xd4, letterMark, first, letterMark,
    firstVowel + number / lastLetters.length % vowelCount, letterMark, last]

/-- What an encoding has in more than two bytes. -/
inductive Beyond where
  /-- Nothing. -/
  | nothing
  /-- A second table, after a byte of its own. -/
  | second (lines : Lines)
  /-- Syllables from their letters. -/
  | syllables
  /-- All other characters, in four bytes; below 65536 those of some stretches. -/
  | quads (stretches : Stretches)
  deriving DecidableEq, Repr, Inhabited

namespace Beyond

/-- The character that three, four or eight bytes are. -/
def char? (e : Beyond) (bytes : List Nat) : Option Char :=
  match e, bytes with
  | second lines, [m, a, b] =>
    if m == secondTable then (Layout.square.place? a b).bind (charAt? lines) else none
  | quads stretches, [a, b, c, d] => (quadNumber? a b c d).bind (quadChar? stretches)
  | syllables, bytes => syllable? bytes
  | _, _ => none

/-- The bytes of a character. -/
def bytes? (e : Beyond) (c : Char) : Option (List Nat) :=
  match e with
  | nothing => none
  | second lines => (placeOf? lines c).map fun p => secondTable :: Layout.square.bytesOf p
  | syllables => syllableBytes? c
  | quads stretches => (quadOf? stretches c).map quadBytes

end Beyond

end DoubleByte

/-! ## 5. Encodings -/

/-- An encoding with a byte or two a character. -/
structure DoubleByte where
  /-- The name it is known by. -/
  name : String
  /-- Other names. -/
  aliases : List String
  /-- Which bytes name which place. -/
  layout : DoubleByte.Layout
  /-- The table. -/
  lines : DoubleByte.Lines
  /-- Characters that are not in the table, or stand there in another place. -/
  runs : List DoubleByte.Run
  /-- Characters whose bytes denote another character, or others too. -/
  stored : List (Char × List Nat)
  /-- What takes more than two bytes. -/
  beyond : DoubleByte.Beyond
  deriving DecidableEq, Repr, Inhabited

namespace DoubleByte

/-- The character that a single byte or the last of two bytes is. -/
def runChar? (e : DoubleByte) (before : List Nat) (last : Nat) : Option Char :=
  e.runs.findSome? fun r => r.char? before last

/-- The character that two bytes are. -/
def pairChar? (e : DoubleByte) (a b : Nat) : Option Char :=
  e.runChar? [a] b <|> (e.layout.place? a b).bind (charAt? e.lines)

/-- The bytes of a character. -/
def charBytes? (e : DoubleByte) (c : Char) : Option (List Nat) :=
  if c.toNat < 128 then some [c.toNat]
  else e.stored.lookup c
    <|> e.runs.findSome? (fun r => r.bytes? c)
    <|> (placeOf? e.lines c).map e.layout.bytesOf
    <|> e.beyond.bytes? c

/-- The bytes of a text. -/
def encode (e : DoubleByte) (s : List Char) : Option (List UInt8) :=
  (s.mapM e.charBytes?).map fun bytes => bytes.flatten.map UInt8.ofNat

/-- The character that bytes begin with, and the number of its bytes. -/
def firstChar? (e : DoubleByte) (bytes : List Nat) : Option (Char × Nat) :=
  let longer (count : Nat) : Option (Char × Nat) :=
    if bytes.length < count then none
    else (e.beyond.char? (bytes.take count)).map (·, count)
  match bytes with
  | [] => none
  | a :: rest =>
    if a < 128 then some (Char.ofNat a, 1)
    else (e.runChar? [] a).map (·, 1)
      <|> (rest.head?.bind (e.pairChar? a)).map (·, 2)
      <|> longer 3 <|> longer 4 <|> longer 8

/-- The text of bytes. `skip` is the number of bytes left of a character. -/
def decodeFrom (e : DoubleByte) : (skip : Nat) → List Nat → Option (List Char)
  | _, [] => some []
  | skip + 1, _ :: rest => decodeFrom e skip rest
  | 0, a :: rest => do
    let (c, count) ← e.firstChar? (a :: rest)
    return c :: (← decodeFrom e (count - 1) rest)

/-- The text of bytes. -/
def decode (e : DoubleByte) (bytes : List UInt8) : Option (List Char) :=
  decodeFrom e 0 (bytes.map UInt8.toNat)

end DoubleByte

end DomainGen.Text
