import DomainGen.Data.Entries
import DomainGen.Number.Reading

/-!
# Reading JSON

The JSON grammar with two additions: the words `NaN`, `Infinity` and `-Infinity` are numbers, and
an object may repeat a key, the last value counting at the place of the first.

`Json.read` reads a whole text. The functions below it take the text that is left and give back
what they read with the rest; `fuel` bounds the nesting and is twice the length of the text: each
level of nesting takes a character and two calls.
-/

namespace DomainGen.Json

/-- Why a text is not read. -/
inductive ReadError where
  /-- The text is not JSON. -/
  | malformed
  /-- An integer has more digits than are read. -/
  | tooManyDigits
  deriving DecidableEq, Repr, Inhabited

/-- What was read and the text after it. -/
abbrev Reading (α : Type) := Except ReadError (α × List Char)

/-! ## 1. Blanks, words, strings -/

/-- Is the character white space between tokens? -/
def isSpace (c : Char) : Bool :=
  c == ' ' || c == '\t' || c == '\n' || c == '\r'

/-- The text without leading white space. -/
def skipSpace (s : List Char) : List Char :=
  s.dropWhile isSpace

/-- The value of a hexadecimal digit. -/
def hexValue? (c : Char) : Option Nat :=
  if '0' ≤ c && c ≤ '9' then some (c.toNat - 48)
  else if 'a' ≤ c && c ≤ 'f' then some (c.toNat - 87)
  else if 'A' ≤ c && c ≤ 'F' then some (c.toNat - 55)
  else none

/-- The code unit of four hexadecimal digits. -/
def unit? : List Char → Option (Nat × List Char)
  | a :: b :: c :: d :: rest => do
    let a ← hexValue? a
    let b ← hexValue? b
    let c ← hexValue? c
    let d ← hexValue? d
    some (((a * 16 + b) * 16 + c) * 16 + d, rest)
  | _ => none

/-- The character an escape letter stands for. -/
def simpleEscape? (c : Char) : Option Char :=
  match c with
  | '"' => some '"'
  | '\\' => some '\\'
  | '/' => some '/'
  | 'b' => some '\x08'
  | 'f' => some '\x0c'
  | 'n' => some '\n'
  | 'r' => some '\r'
  | 't' => some '\t'
  | _ => none

/-- The character of a code unit, which takes the following escaped unit as its second half when
    the two form a pair. -/
def unitChar (u : Nat) (rest : List Char) : Char × List Char :=
  if 0xd800 ≤ u && u < 0xdc00 then
    match rest with
    | '\\' :: 'u' :: more =>
      match unit? more with
      | some (v, after) =>
        if 0xdc00 ≤ v && v < 0xe000 then
          (Char.ofNat (0x10000 + (u - 0xd800) * 1024 + (v - 0xdc00)), after)
        else (Char.ofNat 0xfffd, rest)
      | none => (Char.ofNat 0xfffd, rest)
    | _ => (Char.ofNat 0xfffd, rest)
  else if 0xdc00 ≤ u && u < 0xe000 then (Char.ofNat 0xfffd, rest)
  else (Char.ofNat u, rest)

/-- The rest of a string after its opening quote. -/
def readString : (fuel : Nat) → List Char → Reading (List Char)
  | 0, _ => .error .malformed
  | _, [] => .error .malformed
  | fuel + 1, c :: rest =>
    if c == '"' then .ok ([], rest)
    else if c == '\\' then
      match rest with
      | 'u' :: more =>
        match unit? more with
        | none => .error .malformed
        | some (u, after) =>
          let (ch, after) := unitChar u after
          match readString fuel after with
          | .ok (s, r) => .ok (ch :: s, r)
          | .error e => .error e
      | e :: more =>
        match simpleEscape? e with
        | none => .error .malformed
        | some ch => match readString fuel more with
          | .ok (s, r) => .ok (ch :: s, r)
          | .error e => .error e
      | [] => .error .malformed
    else if c.toNat < 32 then .error .malformed
    else match readString fuel rest with
      | .ok (s, r) => .ok (c :: s, r)
      | .error e => .error e

/-! ## 2. Numbers -/

/-- ASCII digits at the start of a text. -/
def takeAsciiDigits (s : List Char) : List Char × List Char :=
  (s.takeWhile Char.isDigit, s.dropWhile Char.isDigit)

/-- A fraction, if one follows: a point and at least one digit. -/
def takeFraction : List Char → List Char × List Char
  | '.' :: rest =>
    let (ds, r) := takeAsciiDigits rest
    if ds.isEmpty then ([], '.' :: rest) else (ds, r)
  | s => ([], s)

/-- An exponent, if one follows: a letter, an optional sign and at least one digit. -/
def takeExponent : List Char → Option Int × List Char
  | c :: rest =>
    if c == 'e' || c == 'E' then
      let (negative, body) := splitSign rest
      let (ds, r) := takeAsciiDigits body
      if ds.isEmpty then (none, c :: rest)
      else
        let n := digitsValue (ds.map fun d => d.toNat - 48)
        (some (if negative then -(n : Int) else n), r)
    else (none, c :: rest)
  | [] => (none, [])

/-- A number without its sign. -/
def readNumber (negative : Bool) (s : List Char) : Reading Data :=
  let (ds, rest) := takeAsciiDigits s
  let (whole, rest) := match ds with
    | '0' :: more => (['0'], more ++ rest)
    | ds => (ds, rest)
  if whole.isEmpty then .error .malformed
  else
    let (fraction, rest) := takeFraction rest
    let (exponent, rest) := takeExponent rest
    let digits := (whole ++ fraction).map fun d => d.toNat - 48
    if fraction.isEmpty && exponent.isNone then
      if maxIntegerDigits < whole.length then .error .tooManyDigits
      else
        let n := digitsValue digits
        .ok (.int (if negative then -(n : Int) else n), rest)
    else
      .ok (.float (.ofDecimal negative (digitsValue digits)
        (exponent.getD 0 - fraction.length)), rest)

/-! ## 3. Values -/

/-- The values that are words. -/
def words : List (String × Data) :=
  [("null", .null), ("true", .bool true), ("false", .bool false), ("NaN", .float (.nan 2)),
    ("Infinity", .float (.infinity false)), ("-Infinity", .float (.infinity true))]

/-- A word at the start of a text. -/
def readWord? (s : List Char) : Option (Data × List Char) :=
  words.findSome? fun (w, v) =>
    if w.toList.isPrefixOf s then some (v, s.drop w.toList.length) else none

mutual

/-- A value at the start of a text. -/
def readValue : (fuel : Nat) → List Char → Reading Data
  | 0, _ => .error .malformed
  | fuel + 1, s =>
    match readWord? s with
    | some found => .ok found
    | none =>
      match s with
      | '"' :: rest => match readString rest.length.succ rest with
        | .ok (t, r) => .ok (.text (String.ofList t), r)
        | .error e => .error e
      | '[' :: rest =>
        match skipSpace rest with
        | ']' :: r => .ok (.list [], r)
        | r => match readItems fuel r with
          | .ok (items, r) => .ok (.list items, r)
          | .error e => .error e
      | '\x7b' :: rest =>
        match skipSpace rest with
        | '\x7d' :: r => .ok (.mapping [], r)
        | r => match readMembers fuel [] r with
          | .ok (members, r) => .ok (.mapping members, r)
          | .error e => .error e
      | '-' :: rest => readNumber true rest
      | s => readNumber false s

/-- Items up to the closing bracket. -/
def readItems : (fuel : Nat) → List Char → Reading (List Data)
  | 0, _ => .error .malformed
  | fuel + 1, s =>
    match readValue fuel s with
    | .error e => .error e
    | .ok (v, rest) =>
      match skipSpace rest with
      | ',' :: r => match readItems fuel (skipSpace r) with
        | .ok (vs, r) => .ok (v :: vs, r)
        | .error e => .error e
      | ']' :: r => .ok ([v], r)
      | _ => .error .malformed

/-- Members up to the closing brace, written after those of `acc`. -/
def readMembers : (fuel : Nat) → Entries → List Char → Reading Entries
  | 0, _, _ => .error .malformed
  | fuel + 1, acc, s =>
    match s with
    | '"' :: rest =>
      match readString rest.length.succ rest with
      | .error e => .error e
      | .ok (key, rest) =>
        match skipSpace rest with
        | ':' :: r =>
          match readValue fuel (skipSpace r) with
          | .error e => .error e
          | .ok (v, rest) =>
            let acc := acc.put (.text (String.ofList key)) v
            match skipSpace rest with
            | ',' :: r => readMembers fuel acc (skipSpace r)
            | '\x7d' :: r => .ok (acc, r)
            | _ => .error .malformed
        | _ => .error .malformed
    | _ => .error .malformed

end

/-- The value of a whole text. -/
def read (text : String) : Except ReadError Data :=
  let s := text.toList
  match readValue (2 * s.length + 2) (skipSpace s) with
  | .error e => .error e
  | .ok (v, rest) => if (skipSpace rest).isEmpty then .ok v else .error .malformed

end DomainGen.Json
