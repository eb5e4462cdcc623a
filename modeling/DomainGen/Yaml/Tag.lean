import DomainGen.Number.Reading
import DomainGen.Text.Lines

/-!
# Tags

The kinds of values a YAML document can hold. A scalar written without quotes shows its kind by its
form.

* `Tag` : the kinds; `Tag.ofName` : from the written name of a tag;
* `Tag.ofPlain` : the kind a plain scalar has by its form;
* `Stamp.read?` : the parts of the written form of a date or a moment.
-/

namespace DomainGen.Yaml

open Text

/-! ## 1. Kinds -/

/-- A kind of value. -/
inductive Tag where
  | null
  | bool
  | int
  | float
  | binary
  | moment
  /-- As a key: the entries of the value belong to the mapping itself. -/
  | merge
  /-- As a key: the value of the mapping when it is read as a scalar. The anchor is that of the node,
      or empty. -/
  | value (anchor : String)
  | text
  | sequence
  | mapping
  | set
  /-- A list of pairs, each written as a mapping of one entry. -/
  | pairs
  /-- A kind that is not safe to read, or none. -/
  | unknown
  deriving DecidableEq, Repr, Inhabited

/-- The beginning of the names of the kinds. -/
def standardTags : String := "tag:yaml.org,2002:"

/-- The kind with a name. -/
def Tag.ofName (name : String) : Tag :=
  if name == standardTags ++ "null" then .null
  else if name == standardTags ++ "bool" then .bool
  else if name == standardTags ++ "int" then .int
  else if name == standardTags ++ "float" then .float
  else if name == standardTags ++ "binary" then .binary
  else if name == standardTags ++ "timestamp" then .moment
  else if name == standardTags ++ "merge" then .merge
  else if name == standardTags ++ "value" then .value ""
  else if name == standardTags ++ "str" then .text
  else if name == standardTags ++ "seq" then .sequence
  else if name == standardTags ++ "map" then .mapping
  else if name == standardTags ++ "set" then .set
  else if name == standardTags ++ "omap" || name == standardTags ++ "pairs" then .pairs
  else .unknown

/-- Is it a kind of collection? -/
def Tag.isCollection : Tag → Bool
  | .sequence => true
  | .mapping => true
  | .set => true
  | .pairs => true
  | _ => false

/-- Is it the kind of the key `=`? -/
def Tag.isValue : Tag → Bool
  | .value _ => true
  | _ => false

/-- The anchor of a key `=` that has one. -/
def Tag.anchor? : Tag → Option String
  | .value a => if a == "" then none else some a
  | _ => none

/-- The kind in a node with an anchor. -/
def Tag.anchored (anchor : String) : Tag → Tag
  | .value _ => .value anchor
  | t => t

/-! ## 2. Forms of numbers -/

/-- A decimal digit, or the mark between groups of digits. -/
def isDigitOrGap (c : Char) : Bool := c.isDigit || c == '_'

/-- A digit from 1 to 9, then digits and gaps. -/
def isLeadingNumber : List Char → Bool
  | c :: rest => c.isDigit && c != '0' && rest.all isDigitOrGap
  | [] => false

/-- A number below sixty, of one or two digits. -/
def isSixtieth : List Char → Bool
  | [d] => d.isDigit
  | [t, d] => '0' ≤ t && t ≤ '5' && d.isDigit
  | _ => false

/-- The form of an integer: binary, octal, decimal, hexadecimal, or in base sixty with colons. -/
def isIntegerForm (s : List Char) : Bool :=
  match (splitSign s).2 with
  | ['0'] => true
  | '0' :: 'b' :: rest => !rest.isEmpty && rest.all fun c => c == '0' || c == '1' || c == '_'
  | '0' :: 'x' :: rest =>
    !rest.isEmpty && rest.all fun c =>
      isDigitOrGap c || ('a' ≤ c && c ≤ 'f') || ('A' ≤ c && c ≤ 'F')
  | '0' :: rest => rest.all fun c => ('0' ≤ c && c ≤ '7') || c == '_'
  | body => match splitAt ':' body with
    | first :: rest => isLeadingNumber first && rest.all isSixtieth
    | [] => false

/-- Nothing, or an exponent with its sign. -/
def isExponentForm : List Char → Bool
  | [] => true
  | c :: sign :: rest =>
    (c == 'e' || c == 'E') && (sign == '-' || sign == '+') && !rest.isEmpty
      && rest.all Char.isDigit
  | _ => false

/-- Digits and gaps, then perhaps an exponent. -/
def isFractionForm (s : List Char) : Bool :=
  isExponentForm (s.dropWhile isDigitOrGap)

/-- The form of a decimal: with a point, without a number before it only if there is no sign; in
    base sixty with colons and a point; the words for infinity and for not-a-number. -/
def isDecimalForm (s : List Char) : Bool :=
  let body := (splitSign s).2
  let whole := body.takeWhile isDigitOrGap
  (match body with
    | c :: _ => c.isDigit && (match body.drop whole.length with
      | '.' :: rest => isFractionForm rest
      | ':' :: rest =>
        (splitAt ':' (rest.takeWhile (· != '.'))).all isSixtieth
          && (match rest.dropWhile (· != '.') with
            | '.' :: fraction => fraction.all isDigitOrGap
            | _ => false)
      | _ => false)
    | [] => false)
    || [".inf", ".Inf", ".INF"].contains (String.ofList body)
    || [".nan", ".NaN", ".NAN"].contains (String.ofList s)
    || (match s with
      | '.' :: c :: rest => c.isDigit && isFractionForm rest
      | _ => false)

/-! ## 3. Forms of dates and moments -/

/-- The time of a moment as written. -/
structure StampTime where
  /-- The hour. -/
  hour : List Char
  /-- The minute. -/
  minute : List Char
  /-- The second. -/
  second : List Char
  /-- The digits after the point. -/
  fraction : List Char
  /-- The distance from universal time: is it negative, its hours, its minutes. -/
  zone : Option (Bool × List Char × List Char)

/-- A date or a moment as written. -/
structure Stamp where
  /-- The four digits of the year. -/
  year : List Char
  /-- The month. -/
  month : List Char
  /-- The day. -/
  day : List Char
  /-- The time of a moment. -/
  time : Option StampTime

namespace Stamp

/-- Between `least` and `most` digits, as many as there are, and the text after them. -/
def digits? (least most : Nat) (s : List Char) : Option (List Char × List Char) :=
  let ds := (s.take most).takeWhile Char.isDigit
  if ds.length < least then none else some (ds, s.drop ds.length)

/-- The text after a given character. -/
def after? (c : Char) : List Char → Option (List Char)
  | d :: rest => if c == d then some rest else none
  | [] => none

/-- A blank or a tabulator. -/
def isGap (c : Char) : Bool := c == ' ' || c == '\t'

/-- The distance from universal time at the end of a moment. -/
def zone? (s : List Char) : Option (Option (Bool × List Char × List Char)) :=
  match s with
  | [] => some none
  | _ => match s.dropWhile isGap with
    | ['Z'] => some (some (false, ['0'], []))
    | sign :: rest =>
      if sign == '-' || sign == '+' then do
        let (hours, rest) ← digits? 1 2 rest
        match rest with
        | [] => some (some (sign == '-', hours, []))
        | _ => do
          let rest ← after? ':' rest
          let (minutes, rest) ← digits? 2 2 rest
          if rest.isEmpty then some (some (sign == '-', hours, minutes)) else none
      else none
    | [] => none

/-- The time of a moment, after what separates it from the date. -/
def time? (s : List Char) : Option StampTime := do
  let (hour, s) ← digits? 1 2 s
  let (minute, s) ← digits? 2 2 (← after? ':' s)
  let (second, s) ← digits? 2 2 (← after? ':' s)
  let (fraction, s) := match s with
    | '.' :: rest => (rest.takeWhile Char.isDigit, rest.dropWhile Char.isDigit)
    | _ => ([], s)
  let zone ← zone? s
  some ⟨hour, minute, second, fraction, zone⟩

/-- A date or a moment as written. -/
def read? (s : List Char) : Option Stamp := do
  let (year, s) ← digits? 4 4 s
  let (month, s) ← digits? 1 2 (← after? '-' s)
  let (day, s) ← digits? 1 2 (← after? '-' s)
  match s with
  | [] => some ⟨year, month, day, none⟩
  | c :: rest =>
    if c == 'T' || c == 't' then (time? rest).map fun t => ⟨year, month, day, some t⟩
    else if isGap c then
      (time? (rest.dropWhile isGap)).map fun t => ⟨year, month, day, some t⟩
    else none

end Stamp

/-- The form of a date or a moment; a date alone has two digits for month and day. -/
def isStampForm (s : List Char) : Bool :=
  match Stamp.read? s with
  | some t => t.time.isSome || (t.month.length == 2 && t.day.length == 2)
  | none => false

/-! ## 4. Plain scalars -/

/-- The words for the truth values. -/
def boolWords : List String :=
  ["yes", "Yes", "YES", "no", "No", "NO", "true", "True", "TRUE", "false", "False", "FALSE",
    "on", "On", "ON", "off", "Off", "OFF"]

/-- The words for null. -/
def nullWords : List String := ["~", "null", "Null", "NULL"]

/-- A text less one line feed at its end. -/
def dropFinalBreak (s : List Char) : List Char :=
  if s.getLast? == some '\n' then s.dropLast else s

/-- The kind a plain scalar has by its form. -/
def Tag.ofPlain (text : String) : Tag :=
  if text.isEmpty then .null
  else
    let s := dropFinalBreak text.toList
    let word := String.ofList s
    if boolWords.contains word then .bool
    else if isDecimalForm s then .float
    else if isIntegerForm s then .int
    else if word == "<<" then .merge
    else if nullWords.contains word then .null
    else if isStampForm s then .moment
    else if word == "=" then .value ""
    else if ["!", "&", "*"].contains word then .unknown
    else .text

end DomainGen.Yaml
