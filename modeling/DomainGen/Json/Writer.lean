import DomainGen.Data.Text

/-!
# Writing JSON

Plain data as indented JSON: two blanks for each level, one item or member a line, empty lists and
objects on one line, characters outside ASCII unescaped. Keys are written as strings, so numbers,
truth values and null can be keys; a value without a JSON form is a fault.
-/

namespace DomainGen.Json

open Text

/-- One character of a string. -/
def escapeChar (c : Char) : List Char :=
  if c == '"' then ['\\', '"']
  else if c == '\\' then ['\\', '\\']
  else if c == '\n' then ['\\', 'n']
  else if c == '\r' then ['\\', 'r']
  else if c == '\t' then ['\\', 't']
  else if c == '\x08' then ['\\', 'b']
  else if c == '\x0c' then ['\\', 'f']
  else if c.toNat < 32 then ['\\', 'u'] ++ hexDigits 4 c.toNat
  else [c]

/-- A string. -/
def writeString (s : String) : String :=
  String.ofList ('"' :: s.toList.flatMap escapeChar ++ ['"'])

/-- The text of a number, a truth value or null. -/
def writeLiteral : Data → Except Fault String
  | .null => .ok "null"
  | .bool b => .ok (if b then "true" else "false")
  | .int i => Data.asText (.int i)
  | .float x => .ok (x.textIn .json)
  | _ => .error .wrongKind

/-- The text of a value that is neither a list nor a mapping. -/
def writeScalar : Data → Except Fault String
  | .text s => .ok (writeString s)
  | x => writeLiteral x

/-- The text of a key. -/
def writeKey : Data → Except Fault String
  | .text s => .ok s
  | x => writeLiteral x

/-- A line break and the indentation of a level. -/
def newLine (level : Nat) : String :=
  String.ofList ('\n' :: List.replicate (2 * level) ' ')

mutual

/-- The text of a value at a level of indentation. -/
def writeAt (level : Nat) : Data → Except Fault String
  | .list xs => writeList level xs
  | .tuple xs => writeList level xs
  | .mapping [] => .ok "\x7b\x7d"
  | .mapping es => do
    let members ← writeMembers (level + 1) es
    return "\x7b" ++ newLine (level + 1) ++ ("," ++ newLine (level + 1)).intercalate members
      ++ newLine level ++ "\x7d"
  | x => writeScalar x

/-- The text of a list. -/
def writeList (level : Nat) : List Data → Except Fault String
  | [] => .ok "[]"
  | x :: xs => do
    let first ← writeAt (level + 1) x
    let rest ← writeItems (level + 1) xs
    return "[" ++ newLine (level + 1) ++ ("," ++ newLine (level + 1)).intercalate (first :: rest)
      ++ newLine level ++ "]"

/-- The texts of several items. -/
def writeItems (level : Nat) : List Data → Except Fault (List String)
  | [] => .ok []
  | x :: xs => do
    let first ← writeAt level x
    let rest ← writeItems level xs
    return first :: rest

/-- The texts of several members. -/
def writeMembers (level : Nat) : List (Data × Data) → Except Fault (List String)
  | [] => .ok []
  | (k, v) :: es => do
    let key ← writeKey k
    let value ← writeAt level v
    let rest ← writeMembers level es
    return (writeString key ++ ": " ++ value) :: rest

end

/-- The text of a value. -/
def write (x : Data) : Except Fault String :=
  writeAt 0 x

/-! Text goes out part by part, so what comes before the first part that has none is written. -/

mutual

/-- What is written of a value without a text at a level of indentation. -/
def begunAt (level : Nat) : Data → String
  | .list xs => begunItems (level + 1) ("[" ++ newLine (level + 1)) xs
  | .tuple xs => begunItems (level + 1) ("[" ++ newLine (level + 1)) xs
  | .mapping es => "\x7b" ++ newLine (level + 1) ++ begunMembers (level + 1) "" es
  | _ => ""

/-- What is written of some items. What leads to a number goes out together with it. -/
def begunItems (level : Nat) (lead : String) : List Data → String
  | [] => ""
  | x :: xs => match writeAt level x, x with
    | .ok text, _ => lead ++ text ++ begunItems level ("," ++ newLine level) xs
    | .error _, .int _ => ""
    | .error _, x => lead ++ begunAt level x

/-- What is written of some members. -/
def begunMembers (level : Nat) (lead : String) : List (Data × Data) → String
  | [] => ""
  | (k, v) :: es => match writeKey k, writeAt level v with
    | .error _, _ => ""
    | .ok key, .ok text => lead ++ writeString key ++ ": " ++ text
        ++ begunMembers level ("," ++ newLine level) es
    | .ok key, .error _ => lead ++ writeString key ++ ": " ++ begunAt level v

end

/-- What is written of a value without a text. -/
def begun (x : Data) : String :=
  begunAt 0 x

end DomainGen.Json
