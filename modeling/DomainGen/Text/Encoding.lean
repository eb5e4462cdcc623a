import DomainGen.Fault
import DomainGen.Text.Case
import DomainGen.Text.Charmap
import DomainGen.Text.DoubleByte
import DomainGen.Text.Escape
import DomainGen.Text.Utf7

/-!
# Encodings

How a text is stored as bytes. `Encoding.encode` fails on a character the encoding does not have,
`Encoding.decode` on bytes that are no text. Reading is strict: over-long forms, surrogate code
points and cut sequences are refused.

* `Encoding.ofName` : the encoding of a name; case does not matter, nor do marks around it, and any
  marks in it are as good as one low line;
* `Utf8.encode`, `Utf8.decode` : the form with one to four bytes for a character;
* `Units16`, `Units32` : the forms with units of two and four bytes, in either byte order.
-/

namespace DomainGen

open Text (Charmap DoubleByte)

/-! ## 1. The form with one to four bytes -/

namespace Utf8

/-- The bytes of one character. -/
def encodeChar (c : Char) : List UInt8 :=
  let n := c.toNat
  if n < 0x80 then [UInt8.ofNat n]
  else if n < 0x800 then [UInt8.ofNat (0xc0 + n / 64), UInt8.ofNat (0x80 + n % 64)]
  else if n < 0x10000 then
    [UInt8.ofNat (0xe0 + n / 4096), UInt8.ofNat (0x80 + n / 64 % 64), UInt8.ofNat (0x80 + n % 64)]
  else
    [UInt8.ofNat (0xf0 + n / 262144), UInt8.ofNat (0x80 + n / 4096 % 64),
      UInt8.ofNat (0x80 + n / 64 % 64), UInt8.ofNat (0x80 + n % 64)]

/-- The bytes of a text. -/
def encode (s : List Char) : List UInt8 :=
  s.flatMap encodeChar

/-- The six bits of a byte that continues a character. -/
def tail? (b : UInt8) : Option Nat :=
  if 0x80 ≤ b.toNat && b.toNat < 0xc0 then some (b.toNat - 0x80) else none

/-- The character with a code point, if it is one and is not below `least`. -/
def charAbove? (least n : Nat) : Option Char :=
  if least ≤ n && n.isValidChar then some (Char.ofNat n) else none

/-- The text of bytes. -/
def decode : List UInt8 → Option (List Char)
  | [] => some []
  | a :: rest =>
    let n := a.toNat
    if n < 0x80 then (decode rest).map (Char.ofNat n :: ·)
    else if n < 0xc2 then none
    else if n < 0xe0 then
      match rest with
      | b :: rest => do
        let y ← tail? b
        let c ← charAbove? 0x80 ((n - 0xc0) * 64 + y)
        (decode rest).map (c :: ·)
      | _ => none
    else if n < 0xf0 then
      match rest with
      | b :: d :: rest => do
        let y ← tail? b
        let z ← tail? d
        let c ← charAbove? 0x800 (((n - 0xe0) * 64 + y) * 64 + z)
        (decode rest).map (c :: ·)
      | _ => none
    else if n < 0xf5 then
      match rest with
      | b :: d :: e :: rest => do
        let x ← tail? b
        let y ← tail? d
        let z ← tail? e
        let c ← charAbove? 0x10000 ((((n - 0xf0) * 64 + x) * 64 + y) * 64 + z)
        (decode rest).map (c :: ·)
      | _ => none
    else none

end Utf8

/-! ## 2. Units of two and four bytes -/

/-- Which byte of a unit comes first. -/
inductive ByteOrder where
  | littleEndian
  | bigEndian
  deriving DecidableEq, Repr, Inhabited

/-- The low `width` bytes of a unit. -/
def unitBytes (order : ByteOrder) (width n : Nat) : List UInt8 :=
  let low := (List.range width).map fun i => UInt8.ofNat (n / Nat.pow 256 i % 256)
  match order with
  | .littleEndian => low
  | .bigEndian => low.reverse

/-- The unit some bytes make up. -/
def unitOf (order : ByteOrder) (bytes : List UInt8) : Nat :=
  let high := match order with
    | .littleEndian => bytes.reverse
    | .bigEndian => bytes
  high.foldl (fun n b => n * 256 + b.toNat) 0

/-- The bytes in groups of two. -/
def pairUnits (order : ByteOrder) : List UInt8 → Option (List Nat)
  | [] => some []
  | a :: b :: rest => (pairUnits order rest).map (unitOf order [a, b] :: ·)
  | _ => none

/-- The bytes in groups of four. -/
def quadUnits (order : ByteOrder) : List UInt8 → Option (List Nat)
  | [] => some []
  | a :: b :: c :: d :: rest => (quadUnits order rest).map (unitOf order [a, b, c, d] :: ·)
  | _ => none

namespace Units16

/-- The one or two units of a character. -/
def encodeChar (c : Char) : List Nat :=
  let n := c.toNat
  if n < 0x10000 then [n]
  else [0xd800 + (n - 0x10000) / 1024, 0xdc00 + (n - 0x10000) % 1024]

/-- The text of units. -/
def decode : List Nat → Option (List Char)
  | [] => some []
  | u :: rest =>
    if u < 0xd800 || 0xe000 ≤ u then (decode rest).map (Char.ofNat u :: ·)
    else match rest with
      | v :: rest =>
        if u < 0xdc00 && 0xdc00 ≤ v && v < 0xe000 then
          (decode rest).map (Char.ofNat (0x10000 + (u - 0xd800) * 1024 + (v - 0xdc00)) :: ·)
        else none
      | [] => none

end Units16

/-- The text of code points. -/
def Units32.decode (units : List Nat) : Option (List Char) :=
  units.mapM fun u => if u.isValidChar then some (Char.ofNat u) else none

/-! ## 3. Encodings and their names -/

/-- An encoding. -/
inductive Encoding where
  /-- One to four bytes a character. -/
  | utf8
  /-- The same with a mark at the start. -/
  | utf8Marked
  /-- One byte below 128 a character. -/
  | ascii
  /-- One byte a character: the first 256 code points. -/
  | latin1
  /-- One byte a character, as a table has it. -/
  | charmap (table : Charmap)
  /-- One or two bytes a character, as a table has it. -/
  | doubleByte (table : DoubleByte)
  /-- Bytes below 128, with digits for other characters. -/
  | utf7
  /-- Bytes below 128, with escapes for what is not printable in them. -/
  | escaped
  /-- One byte a character below 256, with escapes for others. -/
  | escapedHigh
  /-- Units of two bytes in an order. -/
  | utf16 (order : ByteOrder)
  /-- Units of two bytes with a mark at the start that tells the order. -/
  | utf16Marked
  /-- Units of four bytes in an order. -/
  | utf32 (order : ByteOrder)
  /-- Units of four bytes with a mark at the start that tells the order. -/
  | utf32Marked
  deriving DecidableEq, Repr, Inhabited

namespace Encoding

open Text

/-- The mark at the start of a text that tells byte order or encoding. -/
def mark : Char := Char.ofNat 0xfeff

/-- Is the character kept in the name of an encoding? -/
def isNameChar (c : Char) : Bool := c.isAlphanum || c == '.'

/-- A name in the form in which names are compared: its runs of letters, digits and points in lower
    case, joined by low lines. -/
def normalizeName (name : String) : String :=
  let runs := name.toList.splitBy fun a b => isNameChar a == isNameChar b
  "_".intercalate ((runs.filter (·.all isNameChar)).map fun run =>
    String.ofList (run.map Char.toLower))

/-- An encoding under the names it goes by. -/
structure Naming where
  /-- The encoding. -/
  encoding : Encoding
  /-- Its name. -/
  name : String
  /-- Its other names. -/
  aliases : List String

/-- The names of the encodings that no table has. -/
def namings : List Naming :=
  [⟨.utf8, "utf_8", ["utf8", "u8", "utf", "cp65001", "utf8_ucs2", "utf8_ucs4"]⟩,
    ⟨.utf8Marked, "utf_8_sig", []⟩,
    ⟨.ascii, "ascii", ["us_ascii", "us", "646", "ansi_x3.4_1968", "ansi_x3_4_1968",
      "ansi_x3.4_1986", "cp367", "csascii", "ibm367", "iso646_us", "iso_646.irv_1991",
      "iso_ir_6"]⟩,
    ⟨.latin1, "latin_1", ["latin1", "latin", "l1", "iso_8859_1", "iso8859_1", "iso8859", "8859",
      "cp819", "csisolatin1", "ibm819", "iso_8859_1_1987", "iso_ir_100"]⟩,
    ⟨.latin1, "charmap", []⟩,
    ⟨.utf16 .littleEndian, "utf_16_le", ["utf_16le", "unicodelittleunmarked"]⟩,
    ⟨.utf16 .bigEndian, "utf_16_be", ["utf_16be", "unicodebigunmarked"]⟩,
    ⟨.utf16Marked, "utf_16", ["utf16", "u16"]⟩,
    ⟨.utf32 .littleEndian, "utf_32_le", ["utf_32le"]⟩,
    ⟨.utf32 .bigEndian, "utf_32_be", ["utf_32be"]⟩,
    ⟨.utf32Marked, "utf_32", ["utf32", "u32"]⟩,
    ⟨.utf7, "utf_7", ["utf7", "u7", "unicode_1_1_utf_7"]⟩,
    ⟨.escaped, "unicode_escape", []⟩,
    ⟨.escapedHigh, "raw_unicode_escape", []⟩]

/-- The encoding of a name in that form. Points in a name count as low lines among the other
    names. -/
def named? (n : String) : Option Encoding :=
  let other := String.ofList (n.toList.map fun c => if c == '.' then '_' else c)
  match namings.find? fun e => e.name == n || e.aliases.contains n || e.aliases.contains other with
  | some e => some e.encoding
  | none => (Charmap.named? n).map .charmap <|> (DoubleByte.named? n).map .doubleByte

/-- The encoding of a name. A name holds no null character. -/
def ofName (name : String) : Except Fault Encoding :=
  if name.toList.contains '\x00' then .error .badValue
  else match named? (normalizeName name) with
    | some e => .ok e
    | none => .error .unknownEncoding

/-- The bytes of characters below 256. -/
def bytesBelow (limit : Nat) (s : List Char) : Option (List UInt8) :=
  s.mapM fun c => if c.toNat < limit then some (UInt8.ofNat c.toNat) else none

/-- The bytes of a text. -/
def encode (e : Encoding) (text : String) : Option (List UInt8) :=
  let s := text.toList
  match e with
  | .utf8 => some (Utf8.encode s)
  | .utf8Marked => some (Utf8.encode (mark :: s))
  | .ascii => bytesBelow 128 s
  | .latin1 => bytesBelow 256 s
  | .charmap table => table.encode s
  | .doubleByte table => table.encode s
  | .utf7 => some (Utf7.encode s)
  | .escaped => bytesBelow 128 (escapeAll s)
  | .escapedHigh =>
    bytesBelow 256 (s.flatMap fun c => if c.toNat < 256 then [c] else codeEscape c.toNat)
  | .utf16 order => some ((s.flatMap Units16.encodeChar).flatMap (unitBytes order 2))
  | .utf16Marked =>
    some (((mark :: s).flatMap Units16.encodeChar).flatMap (unitBytes .littleEndian 2))
  | .utf32 order => some (s.flatMap fun c => unitBytes order 4 c.toNat)
  | .utf32Marked => some ((mark :: s).flatMap fun c => unitBytes .littleEndian 4 c.toNat)

/-- What a reading without a mark amounts to: no bytes are no text, bytes that would be a text
    lack the mark, and other bytes are no text at all. -/
def withoutMark (bytes : List UInt8) (text : Option (List Char)) : Except Fault (List Char) :=
  match text with
  | none => .error .undecodable
  | some s => if bytes.isEmpty then .ok s else .error .unmarked

/-- A text or, without one, the fault that the bytes are none. -/
def orUndecodable (text : Option (List Char)) : Except Fault (List Char) :=
  match text with
  | some s => .ok s
  | none => .error .undecodable

/-- The text of bytes that are code points. -/
def highText (bytes : List UInt8) : List Char := bytes.map fun b => Char.ofNat b.toNat

/-- The text of bytes. A cut mark at the start of the marked form with one to four bytes is an
    empty text; the marked forms with units do not go without their mark. -/
def decode (e : Encoding) (bytes : List UInt8) : Except Fault (List Char) :=
  match e with
  | .utf8 => orUndecodable (Utf8.decode bytes)
  | .utf8Marked =>
    if bytes.length < 3 && bytes.isPrefixOf (Utf8.encodeChar mark) then .ok []
    else orUndecodable ((Utf8.decode bytes).map fun s =>
      if s.head? == some mark then s.tail else s)
  | .ascii =>
    orUndecodable (bytes.mapM fun b => if b.toNat < 128 then some (Char.ofNat b.toNat) else none)
  | .latin1 => .ok (highText bytes)
  | .charmap table => orUndecodable (table.decode bytes)
  | .doubleByte table => orUndecodable (table.decode bytes)
  | .utf7 => orUndecodable (Utf7.decode bytes)
  | .escaped => orUndecodable (unescape? (bytes.length + 1) (highText bytes))
  | .escapedHigh => orUndecodable (unescapeCodes? (bytes.length + 1) (highText bytes))
  | .utf16 order => orUndecodable ((pairUnits order bytes).bind Units16.decode)
  | .utf16Marked =>
    match bytes with
    | 0xff :: 0xfe :: rest => orUndecodable ((pairUnits .littleEndian rest).bind Units16.decode)
    | 0xfe :: 0xff :: rest => orUndecodable ((pairUnits .bigEndian rest).bind Units16.decode)
    | _ => withoutMark bytes ((pairUnits .littleEndian bytes).bind Units16.decode)
  | .utf32 order => orUndecodable ((quadUnits order bytes).bind Units32.decode)
  | .utf32Marked =>
    match bytes with
    | 0xff :: 0xfe :: 0 :: 0 :: rest =>
      orUndecodable ((quadUnits .littleEndian rest).bind Units32.decode)
    | 0 :: 0 :: 0xfe :: 0xff :: rest =>
      orUndecodable ((quadUnits .bigEndian rest).bind Units32.decode)
    | _ => withoutMark bytes ((quadUnits .littleEndian bytes).bind Units32.decode)

end Encoding

end DomainGen
