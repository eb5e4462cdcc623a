import DomainGen.Number.Reading
import DomainGen.Text.CharacterName

/-!
# Escapes

Characters written as a backslash and what follows it: a letter for a control character, octal or
hexadecimal digits for a code point, a name.

* `unescape?` : a text with its escapes resolved. An unknown escape stands for itself;
* `escapeForeign`, `escapeAll` : a text with escapes for what is outside ASCII, or for all that is
  not printable in it.
-/

namespace DomainGen.Text

/-! ## 1. Reading -/

/-- The letters of escapes for single characters. -/
def escapeLetter? (c : Char) : Option Char :=
  match c with
  | '\\' => some '\\'
  | '\'' => some '\''
  | '"' => some '"'
  | 'a' => some '\x07'
  | 'b' => some '\x08'
  | 'f' => some '\x0c'
  | 'n' => some '\n'
  | 'r' => some '\r'
  | 't' => some '\t'
  | 'v' => some '\x0b'
  | _ => none

/-- The number of hexadecimal digits after an escape letter. -/
def escapeDigits? (c : Char) : Option Nat :=
  match c with
  | 'x' => some 2
  | 'u' => some 4
  | 'U' => some 8
  | _ => none

/-- The character that a number of hexadecimal digits denote, and the text after them. -/
def takeCode? (width : Nat) (s : List Char) : Option (Char × List Char) :=
  let ds := s.take width
  if ds.length < width || !ds.all (fun d => d.toNat < 128) then none
  else match readDigits? 16 0 ds with
    | some code => if code < 0x110000 then some (Char.ofNat code, s.drop width) else none
    | none => none

/-- The name between braces, and the text after it. -/
def takeCharacterName? : List Char → Option (List Char × List Char)
  | '\x7b' :: rest =>
    let name := rest.takeWhile (· != '\x7d')
    match rest.drop name.length with
    | _ :: after => some (name, after)
    | [] => none
  | _ => none

/-- The character that octal digits denote, at most three of them, and the text after them. -/
def takeOctal? (s : List Char) : Option (Char × List Char) :=
  let octal := (s.take 3).takeWhile fun d => '0' ≤ d && d ≤ '7'
  if octal.isEmpty then none
  else
    let code := octal.foldl (fun n d => n * 8 + (d.toNat - 48)) 0
    some (Char.ofNat code, s.drop octal.length)

/-- A text with its escapes resolved. A backslash at its end is refused. -/
def unescape? : (fuel : Nat) → List Char → Option (List Char)
  | 0, _ => none
  | fuel + 1, s =>
    match s with
    | [] => some []
    | ['\\'] => none
    | '\\' :: c :: rest =>
      let after (found : Option (Char × List Char)) : Option (List Char) := do
        let (d, r) ← found
        (unescape? fuel r).map (d :: ·)
      if c == '\n' then unescape? fuel rest
      else match escapeLetter? c with
        | some d => (unescape? fuel rest).map (d :: ·)
        | none => match escapeDigits? c with
          | some n => after (takeCode? n rest)
          | none =>
            if c == 'N' then after do
              let (name, r) ← takeCharacterName? rest
              some (← characterNamed? (String.ofList name), r)
            else match takeOctal? (c :: rest) with
              | some found => after (some found)
              | none => (unescape? fuel rest).map ('\\' :: c :: ·)
    | c :: rest => (unescape? fuel rest).map (c :: ·)

/-- A text with only the escapes for code points of four and eight digits resolved. A backslash that
    another one precedes begins none. -/
def unescapeCodes? : (fuel : Nat) → List Char → Option (List Char)
  | 0, _ => none
  | fuel + 1, s =>
    match s with
    | [] => some []
    | '\\' :: c :: rest =>
      if c == 'u' || c == 'U' then do
        let (d, r) ← takeCode? (if c == 'u' then 4 else 8) rest
        (unescapeCodes? fuel r).map (d :: ·)
      else (unescapeCodes? fuel rest).map ('\\' :: c :: ·)
    | c :: rest => (unescapeCodes? fuel rest).map (c :: ·)

/-! ## 2. Writing -/

/-- The hexadecimal digits of a code point, at least `width` of them. -/
def codeDigits (width n : Nat) : List Char :=
  let ds := Nat.toDigits 16 n
  List.replicate (width - ds.length) '0' ++ ds

/-- The escape of a code point. -/
def codeEscape (n : Nat) : List Char :=
  if n < 0x100 then '\\' :: 'x' :: codeDigits 2 n
  else if n < 0x10000 then '\\' :: 'u' :: codeDigits 4 n
  else '\\' :: 'U' :: codeDigits 8 n

/-- A text with an escape for every character outside ASCII. -/
def escapeForeign : List Char → List Char
  | [] => []
  | c :: rest => (if c.toNat < 0x80 then [c] else codeEscape c.toNat) ++ escapeForeign rest

/-- A text with an escape for every character that is not printable in ASCII. -/
def escapeAll (s : List Char) : List Char :=
  s.flatMap fun c =>
    match c with
    | '\\' => ['\\', '\\']
    | '\t' => ['\\', 't']
    | '\n' => ['\\', 'n']
    | '\r' => ['\\', 'r']
    | c => if 0x20 ≤ c.toNat && c.toNat < 0x7f then [c] else codeEscape c.toNat

end DomainGen.Text
