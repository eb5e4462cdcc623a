import DomainGen.Calendar

/-!
# Plain data

The values documents, settings and template contexts are made of. `Data` is the one dynamic value
type of the library; everything read from a document is `Data` until a part of it is recognised.
Values are trees: they have no identity, and one that stands at two places is a value of its own at each.

* `Data.equal` : equality of values. Numbers are equal across kinds (`1`, `1.0` and `true`), the
  order of the entries of a mapping does not matter;
* `Data.sameKey` : equality of keys and of items. It differs in one point: an occurrence of
  not-a-number is the same as itself, though it is not equal to itself;
* `Data.isTrue` : empty, zero and null values are false, all others true;
* `Data.kindName` : the name of a value's kind, as messages give it;
* `Data.hashable` : can the value be a key?
-/

namespace DomainGen

/-- A plain value. -/
inductive Data where
  | null
  | bool (b : Bool)
  | int (i : Int)
  | float (x : Binary64)
  | text (s : String)
  | bytes (bs : List UInt8)
  | date (d : Date)
  | moment (m : Moment)
  | list (items : List Data)
  | tuple (items : List Data)
  | set (items : List Data)
  | mapping (entries : List (Data × Data))
  deriving Repr, Inhabited

/-- The entries of a mapping, in insertion order. -/
abbrev Entries := List (Data × Data)

namespace Data

/-! ## 1. Equality -/

/-- The number a value counts as, if it is an integer or a truth value. -/
def integer? : Data → Option Int
  | .bool b => some (if b then 1 else 0)
  | .int i => some i
  | _ => none

/-- Equality of two values that hold no other values. -/
def equalScalar : Data → Data → Bool
  | .null, .null => true
  | .text s, .text t => s == t
  | .bytes a, .bytes b => a == b
  | .date a, .date b => a == b
  | .moment a, .moment b => a.same b
  | .float x, .float y => x.same y
  | .float x, y => match y.integer? with
    | some i => x.sameInt i
    | none => false
  | x, .float y => match x.integer? with
    | some i => y.sameInt i
    | none => false
  | x, y => match x.integer?, y.integer? with
    | some i, some j => i == j
    | _, _ => false

/-- Are both the same occurrence of not-a-number? -/
def sameNan : Data → Data → Bool
  | .float x, .float y => x.sameNan y
  | _, _ => false

mutual

/-- Equality of values. -/
def equal : Data → Data → Bool
  | .list xs, .list ys => equalItems xs ys
  | .tuple xs, .tuple ys => equalItems xs ys
  | .set xs, .set ys => xs.length == ys.length && eachAmong xs ys
  | .mapping xs, .mapping ys => xs.length == ys.length && eachEntryAmong xs ys
  | x, y => equalScalar x y

/-- Item by item. -/
def equalItems : List Data → List Data → Bool
  | [], [] => true
  | x :: xs, y :: ys => (sameNan x y || equal x y) && equalItems xs ys
  | _, _ => false

/-- Each item of the first list equals one of the second. -/
def eachAmong : List Data → List Data → Bool
  | [], _ => true
  | x :: xs, ys => ys.any (fun y => sameNan x y || equal x y) && eachAmong xs ys

/-- Each entry of the first list equals one of the second. -/
def eachEntryAmong : List (Data × Data) → List (Data × Data) → Bool
  | [], _ => true
  | (k, v) :: xs, ys =>
    ys.any (fun e => (sameNan k e.1 || equal k e.1) && (sameNan v e.2 || equal v e.2))
      && eachEntryAmong xs ys

end

/-- Equality of keys. -/
def sameKey : Data → Data → Bool
  | .text s, .text t => s == t
  | x, y => sameNan x y || equal x y

/-! ## 2. Truth and kind -/

/-- Does the value count as true? -/
def isTrue : Data → Bool
  | .null => false
  | .bool b => b
  | .int i => i != 0
  | .float x => !x.isZero
  | .text s => s != ""
  | .bytes bs => !bs.isEmpty
  | .date _ => true
  | .moment _ => true
  | .list xs => !xs.isEmpty
  | .tuple xs => !xs.isEmpty
  | .set xs => !xs.isEmpty
  | .mapping es => !es.isEmpty

/-- The name of the value's kind. -/
def kindName : Data → String
  | .null => "NoneType"
  | .bool _ => "bool"
  | .int _ => "int"
  | .float _ => "float"
  | .text _ => "str"
  | .bytes _ => "bytes"
  | .date _ => "date"
  | .moment _ => "datetime"
  | .list _ => "list"
  | .tuple _ => "tuple"
  | .set _ => "set"
  | .mapping _ => "dict"

/-- Can the value be a key? Lists, sets and mappings cannot, nor can a tuple that holds one. -/
def hashable : Data → Bool
  | .list _ => false
  | .set _ => false
  | .mapping _ => false
  | .tuple items => hashableItems items
  | _ => true
where
  /-- Can every item be a key? -/
  hashableItems : List Data → Bool
    | [] => true
    | x :: xs => hashable x && hashableItems xs

/-- The text of a value that is a text. -/
def text? : Data → Option String
  | .text s => some s
  | _ => none

/-- The entries of a value that is a mapping. -/
def entries? : Data → Option Entries
  | .mapping es => some es
  | _ => none

/-- Two texts are equal keys exactly when they are the same text. -/
@[simp] theorem sameKey_text (s t : String) : sameKey (.text s) (.text t) = (s == t) := rfl

/-- A key that equals a text is that text. -/
theorem sameKey_text_iff {x : Data} {s : String} : x.sameKey (.text s) = true ↔ x = .text s := by
  cases x with
  | text t => simp
  | _ => simp [sameKey, sameNan, equal, equalScalar, integer?]

theorem text_sameKey_iff {x : Data} {s : String} :
    (Data.text s).sameKey x = true ↔ x = .text s := by
  cases x with
  | text t =>
      rw [sameKey_text, beq_iff_eq, Data.text.injEq]
      exact eq_comm
  | _ => simp [sameKey, sameNan, equal, equalScalar, integer?]

end Data

end DomainGen
