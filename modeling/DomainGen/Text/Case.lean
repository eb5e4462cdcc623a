import DomainGen.Text.Case.Table

/-!
# Upper and lower case

The full case mappings of the Unicode standard, over lists of characters:

* `upperChar`, `lowerChar` : the image of one character, which may have several characters;
* `isUpper` : the property `Uppercase`;
* `lower` : the lower-case form of a text. It is the character-wise image except for the capital
  sigma, whose image at the end of a word is the final form; `endsWord` states that context;
* `capitalize` : the text with its first character in upper case and the rest untouched.

ASCII is decided first, by arithmetic, so the tables are consulted for other scripts only.
-/

namespace DomainGen.Text

open Case

/-! ## 1. One character -/

/-- The code point a table of shifts sends `n` to. -/
def Case.Shift.image? (ts : List Shift) (n : Nat) : Option Char :=
  (ts.find? fun t => t.source.holds n).map fun t => Char.ofNat ((n : Int) + t.distance).toNat

/-- The upper-case form of one character. -/
def upperChar (c : Char) : List Char :=
  if c.toNat < 128 then [c.toUpper]
  else match upperSpecials.find? (·.1 == c.toNat) with
    | some (_, image) => image.map Char.ofNat
    | none => [(Shift.image? upperShifts c.toNat).getD c]

/-- The lower-case form of one character, out of context. The capital I with a dot above keeps its
    dot as a combining mark. -/
def lowerChar (c : Char) : List Char :=
  if c.toNat < 128 then [c.toLower]
  else if c == 'İ' then ['i', Char.ofNat 0x307]
  else [(Shift.image? lowerShifts c.toNat).getD c]

/-- The property `Uppercase`. -/
def isUpper (c : Char) : Bool :=
  if c.toNat < 128 then c.isUpper else Progression.any uppercase c.toNat

/-- The property `Case_Ignorable`. -/
def isCaseIgnorable (c : Char) : Bool :=
  Progression.any caseIgnorable c.toNat

/-- The property `Cased`. -/
def isCased (c : Char) : Bool :=
  Progression.any cased c.toNat

/-! ## 2. Texts -/

/-- The first character that is not case-ignorable, if any, is cased. -/
def startsCased (s : List Char) : Bool :=
  match s.dropWhile isCaseIgnorable with
  | [] => false
  | c :: _ => isCased c

/-- A capital sigma between `before` (nearest character first) and `after` ends a word: a cased
    character precedes it and none follows, case-ignorable characters aside. -/
def endsWord (before after : List Char) : Bool :=
  startsCased before && !startsCased after

/-- The lower-case form of a text that follows `before` (nearest character first). -/
def lowerAfter (before : List Char) : List Char → List Char
  | [] => []
  | c :: rest =>
    (if c == 'Σ' then [if endsWord before rest then 'ς' else 'σ'] else lowerChar c)
      ++ lowerAfter (c :: before) rest

/-- The lower-case form of a text. -/
def lower (s : List Char) : List Char :=
  lowerAfter [] s

/-- The upper-case form of a text. -/
def upper (s : List Char) : List Char :=
  s.flatMap upperChar

/-- The first character in upper case, the rest untouched. -/
def capitalize : List Char → List Char
  | [] => []
  | c :: rest => upperChar c ++ rest

/-! ## 3. The same on strings -/

/-- The lower-case form of a string. -/
def lowerString (s : String) : String :=
  String.ofList (lower s.toList)

/-- The upper-case form of a string. -/
def upperString (s : String) : String :=
  String.ofList (upper s.toList)

@[simp] theorem capitalize_cons (c : Char) (s : List Char) :
    capitalize (c :: s) = upperChar c ++ s := rfl

/-- On ASCII a character has one upper-case character. -/
theorem upperChar_ascii {c : Char} (h : c.toNat < 128) : upperChar c = [c.toUpper] := by
  simp [upperChar, h]

/-- On ASCII a character has one lower-case character. -/
theorem lowerChar_ascii {c : Char} (h : c.toNat < 128) : lowerChar c = [c.toLower] := by
  simp [lowerChar, h]

end DomainGen.Text
