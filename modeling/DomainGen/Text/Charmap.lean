import DomainGen.Text.Charmap.Table

/-!
# Encodings with one byte a character

How a text is stored in the encodings of `DomainGen/Text/Charmap/Table.lean`.

* `Charmap.named?` : the encoding of a name in lower case;
* `Charmap.encodeChar`, `Charmap.decodeByte` : a character and its byte. **Where several bytes denote
  a character the last of them stores it.**
-/

namespace DomainGen.Text.Charmap

/-- The code points of all bytes. -/
def allCodes (m : Charmap) : List Nat :=
  if m.codes.length < 256 then List.range 128 ++ m.codes else m.codes

/-- The encoding of a name. Points in a name count as low lines among the other names. -/
def named? (name : String) : Option Charmap :=
  let other := String.ofList (name.toList.map fun c => if c == '.' then '_' else c)
  tables.find? fun m => m.name == name || m.aliases.contains other

/-- The byte of a character. -/
def encodeChar (m : Charmap) (c : Char) : Option UInt8 :=
  if c.toNat == gap then none
  else (m.allCodes.reverse.findIdx? (· == c.toNat)).map fun i => UInt8.ofNat (255 - i)

/-- The character of a byte. -/
def decodeByte (m : Charmap) (b : UInt8) : Option Char :=
  match m.allCodes[b.toNat]? with
  | some n => if n == gap then none else some (Char.ofNat n)
  | none => none

/-- The bytes of a text. -/
def encode (m : Charmap) (s : List Char) : Option (List UInt8) :=
  s.mapM m.encodeChar

/-- The text of bytes. -/
def decode (m : Charmap) (bytes : List UInt8) : Option (List Char) :=
  bytes.mapM m.decodeByte

end DomainGen.Text.Charmap
