import DomainGen.Data.Basic
import DomainGen.Fault
import DomainGen.Text.Quoted

/-!
# The text of a value

`Data.plain` is the text of a value on its own: a text stands for itself. `Data.inner` is its form
inside a list or a mapping, where texts are quoted and dates name their parts. `Data.hasText` says
which values have a text at all, and `Data.asText` is the text of a value that has one.
-/

namespace DomainGen.Data

open Text

mutual

/-- The form of a value inside a list or a mapping. -/
def inner : Data → String
  | .null => "None"
  | .bool b => if b then "True" else "False"
  | .int i => integerText i
  | .float x => x.text
  | .text s => quoted s
  | .bytes bs => quotedBytes bs
  | .date d => d.inner
  | .moment m => m.inner
  | .list xs => "[" ++ ", ".intercalate (innerItems xs) ++ "]"
  | .tuple [x] => "(" ++ inner x ++ ",)"
  | .tuple xs => "(" ++ ", ".intercalate (innerItems xs) ++ ")"
  | .set [] => "set()"
  | .set xs => "\x7b" ++ ", ".intercalate (innerItems xs) ++ "\x7d"
  | .mapping es => "\x7b" ++ ", ".intercalate (innerEntries es) ++ "\x7d"

/-- The forms of several values. -/
def innerItems : List Data → List String
  | [] => []
  | x :: xs => inner x :: innerItems xs

/-- The forms of several entries. -/
def innerEntries : List (Data × Data) → List String
  | [] => []
  | (k, v) :: es => (inner k ++ ": " ++ inner v) :: innerEntries es

end

/-- The least magnitude of integers that have no text. -/
def textlessFrom : Nat := Nat.pow 10 4300

mutual

/-- Has the value a text? An integer of more than 4300 digits has none. -/
def hasText : Data → Bool
  | .int i => i.natAbs < textlessFrom
  | .list xs => haveText xs
  | .tuple xs => haveText xs
  | .set xs => haveText xs
  | .mapping es => entriesHaveText es
  | _ => true

/-- `hasText` of all of some values. -/
def haveText : List Data → Bool
  | [] => true
  | x :: xs => hasText x && haveText xs

/-- `hasText` of all of some entries. -/
def entriesHaveText : List (Data × Data) → Bool
  | [] => true
  | (k, v) :: es => hasText k && hasText v && entriesHaveText es

end

/-- The text of a value on its own. -/
def plain : Data → String
  | .text s => s
  | .date d => d.text
  | .moment m => m.text
  | x => inner x

/-- The text of a value on its own, if it has one. -/
def asText (x : Data) : Except Fault String :=
  if x.hasText then .ok x.plain else .error .badValue

end DomainGen.Data
