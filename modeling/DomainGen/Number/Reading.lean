import DomainGen.Number.Shortest
import DomainGen.Text.Blank
import DomainGen.Text.Digit

/-!
# Reading numbers

The general reading of integers in a base and of decimals: white space around the number is
ignored, a sign is optional, the digits may be those of any script. Narrower notations (JSON, the
plain scalars of YAML) decide by their own patterns what is a number and then read it here.
-/

namespace DomainGen

open Text

/-! ## 1. Integers -/

/-- The value of a digit in bases up to 36. -/
def baseDigit? (base : Nat) (c : Char) : Option Nat :=
  let v :=
    if 'a' ≤ c && c ≤ 'z' then some (c.toNat - 87)
    else if 'A' ≤ c && c ≤ 'Z' then some (c.toNat - 55)
    else digitValue? c
  v.filter (· < base)

/-- The number a list of digits denotes, appended to what `value` holds. -/
def readDigits? (base : Nat) (value : Nat) : List Char → Option Nat
  | [] => some value
  | c :: rest => (baseDigit? base c).bind fun d => readDigits? base (value * base + d) rest

/-- A sign and the text after it. -/
def splitSign : List Char → Bool × List Char
  | '-' :: rest => (true, rest)
  | '+' :: rest => (false, rest)
  | s => (false, s)

/-- The letter that marks a base after a leading zero. -/
def baseLetter (base : Nat) : Option Char :=
  match base with
  | 2 => some 'b'
  | 8 => some 'o'
  | 16 => some 'x'
  | _ => none

/-- The digits without the mark of the base, if they carry it. -/
def dropBaseMark (base : Nat) : List Char → List Char
  | '0' :: c :: rest => if some c.toLower == baseLetter base then rest else '0' :: c :: rest
  | s => s

/-- White space around a number: that of `isBlank` less the information separators. -/
def isMargin (c : Char) : Bool :=
  isBlank c && !(28 ≤ c.toNat && c.toNat < 32)

/-- A number without the white space around it. -/
def trimMargin (s : List Char) : List Char :=
  ((s.dropWhile isMargin).reverse.dropWhile isMargin).reverse

/-- The longest decimal integer that is read. -/
def maxIntegerDigits : Nat := 4300

/-- An integer in a base. -/
def readInteger? (base : Nat) (s : List Char) : Option Int :=
  let (negative, body) := splitSign (trimMargin s)
  let digits := dropBaseMark base body
  if digits.isEmpty || (base == 10 && maxIntegerDigits < digits.length) then none
  else (readDigits? base 0 digits).map fun n => if negative then -(n : Int) else n

/-! ## 2. Decimals -/

/-- The leading decimal digits of a text, as ASCII, and the text after them. -/
def takeDigits : List Char → List Nat × List Char
  | [] => ([], [])
  | c :: rest =>
    match digitValue? c with
    | some d => let (ds, r) := takeDigits rest; (d :: ds, r)
    | none => ([], c :: rest)

/-- The number decimal digits denote. -/
def digitsValue (ds : List Nat) : Nat :=
  ds.foldl (fun n d => n * 10 + d) 0

/-- The exponent part of a decimal: nothing, or a letter e, a sign and digits, with nothing
    after them. -/
def readExponent? : List Char → Option Int
  | [] => some 0
  | c :: rest =>
    if c == 'e' || c == 'E' then
      let (negative, body) := splitSign rest
      match takeDigits body with
      | ([], _) => none
      | (ds, []) => some (if negative then -(digitsValue ds : Int) else digitsValue ds)
      | (_, _ :: _) => none
    else none

/-- An unsigned decimal: digits with an optional point and exponent, or one of the words for the
    special values. -/
def readUnsigned? (negative : Bool) (s : List Char) : Option Binary64 :=
  match String.ofList (s.map Char.toLower) with
  | "inf" => some (.infinity negative)
  | "infinity" => some (.infinity negative)
  | "nan" => some (.nan 0)
  | _ =>
    let (whole, rest) := takeDigits s
    let (fraction, rest) := match rest with
      | '.' :: r => takeDigits r
      | r => ([], r)
    if whole.isEmpty && fraction.isEmpty then none
    else (readExponent? rest).map fun e =>
      .ofDecimal negative (digitsValue (whole ++ fraction)) (e - fraction.length)

/-- A decimal. -/
def readDecimal? (s : List Char) : Option Binary64 :=
  let (negative, body) := splitSign (trimMargin s)
  readUnsigned? negative body

end DomainGen
