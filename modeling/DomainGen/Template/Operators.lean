import DomainGen.Naming
import DomainGen.Number.Reading
import DomainGen.Path
import DomainGen.Template.Member
import DomainGen.Template.Syntax
import DomainGen.Text.Blank

/-!
# Operators and filters of templates

What the operators between values and the filters of templates compute.

* `add`, `subtract`, `negate`, `compare`, `concatenate` : operators;
* `applyFilter` : a filter with its arguments. Filters for names work as in `DomainGen/Naming.lean`;
* `ask` : a question about a value.

Markup and text make markup, with the text escaped. An undefined value shows as nothing and takes
part in no arithmetic.
-/

namespace DomainGen.Template

open Text

/-! ## 1. Arithmetic -/

/-- A number as a decimal. Integers beyond the range of decimals have none. -/
def decimal? : Data → Option Binary64
  | .float x => some x
  | d => d.integer?.bind Binary64.ofInt?

/-- A sum or difference of numbers: of integers if both are. -/
def arithmetic? (onInts : Int → Int → Int) (onDecimals : Binary64 → Binary64 → Binary64)
    (a b : Data) : Option Data :=
  match a.integer?, b.integer? with
  | some i, some j => some (.int (onInts i j))
  | _, _ => do
    let x ← decimal? a
    let y ← decimal? b
    some (.float (onDecimals x y))

/-- The sum of two plain values: of numbers, or of two texts or two strings of bytes. -/
def addData? (a b : Data) : Option Data :=
  match a, b with
  | .text s, .text t => some (.text (s ++ t))
  | .bytes xs, .bytes ys => some (.bytes (xs ++ ys))
  | a, b => arithmetic? (· + ·) Binary64.add a b

/-- A value if there is one; an operation without one is not defined. -/
def defined {α : Type} (v : Option α) : Except RenderFault α :=
  match v with
  | some x => .ok x
  | none => .error .unsupported

/-- A sum. -/
def add (a b : Value) : Except RenderFault Value :=
  match a, b with
  | .undefined f, _ => .error f
  | _, .undefined f => .error f
  | .markup s, .markup t => .ok (.markup (s ++ t))
  | .markup s, .plain (.text t) => .ok (.markup (s ++ escapeMarkup t))
  | .plain (.text s), .markup t => .ok (.markup (escapeMarkup s ++ t))
  | .list xs, .list ys => .ok (.list (xs ++ ys))
  | .tuple xs, .tuple ys => .ok (.tuple (xs ++ ys))
  | .span s, .span t => .ok (.span ⟨s.micros + t.micros⟩)
  | .plain x, .plain y => (defined (addData? x y)).map .plain
  | _, _ => .error .unsupported

/-- The time from one day or moment to another. -/
def elapsed? (a b : Data) : Option Span :=
  match a, b with
  | .date d, .date e => some ⟨((d.ordinal : Int) - e.ordinal) * Span.perDay⟩
  | .moment m, .moment n => match m.offset, n.offset with
    | some o, some p => some ⟨m.instant o - n.instant p⟩
    | none, none => some ⟨m.instant 0 - n.instant 0⟩
    | _, _ => none
  | _, _ => none

/-- A difference. -/
def subtract (a b : Value) : Except RenderFault Value :=
  match a, b with
  | .undefined f, _ => .error f
  | _, .undefined f => .error f
  | .span s, .span t => .ok (.span ⟨s.micros - t.micros⟩)
  | .plain x, .plain y => match elapsed? x y with
    | some s => .ok (.span s)
    | none => (defined (arithmetic? (· - ·) (fun x y => x.add y.neg) x y)).map .plain
  | _, _ => .error .unsupported

/-- A number with the other sign. -/
def negate (a : Value) : Except RenderFault Value :=
  match a with
  | .undefined f => .error f
  | .span s => .ok (.span ⟨-s.micros⟩)
  | .plain (.float x) => .ok (.plain (.float x.neg))
  | .plain d => (defined d.integer?).map fun i => .ofInt (-i)
  | _ => .error .unsupported

/-- A number with its sign; truth values count as integers. -/
def affirm (a : Value) : Except RenderFault Value :=
  match a with
  | .undefined f => .error f
  | .span s => .ok (.span s)
  | .plain (.float x) => .ok (.plain (.float x))
  | .plain d => (defined d.integer?).map Value.ofInt
  | _ => .error .unsupported

/-- Is the value markup? -/
def isMarkup : Value → Bool
  | .markup _ => true
  | _ => false

/-- The texts of values in a row. Where markup is escaped, markup among them makes all of them
    markup. -/
def concatenate (escaping : Bool) (vs : List Value) : Except RenderFault Value := do
  if escaping && vs.any isMarkup then
    return .markup (String.join (← vs.mapM (Value.shown true)))
  else return .ofText (String.join (← vs.mapM Value.written))

/-! ## 2. Comparison -/

/-- The order of two strings of bytes: that of the first bytes that differ, or of their lengths. -/
def orderBytes : List UInt8 → List UInt8 → Ordering
  | [], [] => .eq
  | [], _ :: _ => .lt
  | _ :: _, [] => .gt
  | x :: xs, y :: ys => if x == y then orderBytes xs ys else compareOfLessAndEq x y

/-- The order of two plain values: of numbers, of texts, of bytes, of days or of moments.
    Not-a-number has no place. -/
def orderData? (a b : Data) : Option (Option Ordering) :=
  match a, b with
  | .text s, .text t => some (some (compareOfLessAndEq s t))
  | .bytes xs, .bytes ys => some (some (orderBytes xs ys))
  | .float x, .float y => some (x.compare? y)
  | .float x, b => b.integer?.map fun i => x.compareInt? i
  | a, .float y => a.integer?.map fun i => (y.compareInt? i).map Ordering.swap
  | a, b => match a.integer?, b.integer? with
    | some i, some j => some (some (compareOfLessAndEq i j))
    | _, _ => (elapsed? a b).map fun s => some (compareOfLessAndEq s.micros 0)

/-- The plain value that markup consists of. -/
def unmarked : Value → Value
  | .markup s => .ofText s
  | v => v

mutual

/-- The order of two values. -/
def order? : Value → Value → Except RenderFault (Option Ordering)
  | .undefined f, _ => .error f
  | _, .undefined f => .error f
  | .span s, .span t => .ok (some (compareOfLessAndEq s.micros t.micros))
  | .list xs, .list ys => orderItems? xs ys
  | .tuple xs, .tuple ys => orderItems? xs ys
  | a, b => match unmarked a, unmarked b with
    | .plain x, .plain y => defined (orderData? x y)
    | _, _ => .error .unsupported

/-- The order of two rows of values: that of the first items that differ, or of their lengths. -/
def orderItems? : List Value → List Value → Except RenderFault (Option Ordering)
  | [], [] => .ok (some .eq)
  | [], _ :: _ => .ok (some .lt)
  | _ :: _, [] => .ok (some .gt)
  | x :: xs, y :: ys => if x.sameItem y then orderItems? xs ys else order? x y

end

/-- Does a sequence contain another one without gaps? -/
def containsRow {α : Type} [BEq α] (part : List α) : List α → Bool
  | [] => part.isEmpty
  | x :: rest => part.isPrefixOf (x :: rest) || containsRow part rest

/-- Is a value among the keys of entries? -/
def isKey (a : Value) (es : List (Value × Value)) : Except RenderFault Bool :=
  if a.hashable then .ok (es.any fun e => e.1.sameItem a) else .error .unsupported

/-- Is a value in a string of bytes: a byte of it, or some bytes in a row? -/
def isInBytes (a : Data) (bs : List UInt8) : Except RenderFault Bool :=
  match a with
  | .bytes part => .ok (containsRow part bs)
  | a => match a.integer? with
    | some i => if 0 ≤ i && i < 256 then .ok (bs.any fun b => (b.toNat : Int) == i)
      else .error .unsupported
    | none => .error .unsupported

/-- Is a value in another one: a part of a text or of bytes, a key of a mapping, an item? -/
def isIn (a b : Value) : Except RenderFault Bool :=
  match b with
  | .mapping es => isKey a es
  | .view .keys es => isKey a es
  | .set xs =>
    if a.hashable then .ok (xs.any fun x => x.sameItem a) else .error .unsupported
  | .plain (.bytes bs) => match a with
    | .plain d => isInBytes d bs
    | _ => .error .unsupported
  | b => match b.text? with
    | some t => match a.text? with
      | some s => .ok (containsRow s.toList t.toList)
      | none => .error .unsupported
    | none => b.items.map fun xs => xs.any fun x => x.sameItem a

/-- A comparison. -/
def compare (c : Comparison) (a b : Value) : Except RenderFault Bool :=
  let ordered (test : Ordering → Bool) : Except RenderFault Bool :=
    (order? a b).map fun o => match o with
      | some o => test o
      | none => false
  match c with
  | .equal => .ok (a.equal b)
  | .notEqual => .ok (!a.equal b)
  | .less => ordered (· == .lt)
  | .lessOrEqual => ordered (· != .gt)
  | .greater => ordered (· == .gt)
  | .greaterOrEqual => ordered (· != .lt)
  | .isIn => isIn a b
  | .isNotIn => (isIn a b).map (!·)

/-! ## 3. Arguments -/

/-- The arguments of some names, given by place or by name. -/
def argumentsFor (names : List String) (args : List Value) (named : List (String × Value)) :
    Except RenderFault (List (Option Value)) :=
  let placed := names.take args.length
  if names.length < args.length then .error .unsupported
  else if named.any fun e => !names.contains e.1 || placed.contains e.1 then .error .unsupported
  else .ok (args.map some ++ (names.drop args.length).map fun n => named.lookup n)

/-! ## 4. Filters -/

/-- A comment mark and a blank before every line that is not blank. -/
def commentLines (style text : String) : String :=
  let line (l : List Char) : List Char :=
    if isBlankLine l then l else style.toList ++ ' ' :: l
  String.ofList (joinWith ['\n'] ((splitAt '\n' text.toList).map line))

/-- A value with its first character in upper case. -/
def capitalizeValue (v : Value) : Except RenderFault Value :=
  match v with
  | .undefined f => .error f
  | .markup s => .ok (.markup (capitalizeFirst s))
  | .plain (.text s) => .ok (.ofText (capitalizeFirst s))
  | .plain (.bytes (b :: bs)) =>
    .ok (.plain (.bytes ((if 97 ≤ b && b ≤ 122 then b - 32 else b) :: bs)))
  | .plain (.bytes []) => .ok (.plain (.bytes []))
  | _ => .error .unsupported

/-- The keys that lead to a part of a value: those between the points of a text, as places where they
    are digits. -/
def pathOf (v : Value) : List Value :=
  match v.text? with
  | some s => (splitAt '.' s.toList).map fun piece =>
    match readDigits? 10 0 piece with
    | some n => if piece.isEmpty then .ofText "" else .ofInt n
    | none => .ofText (String.ofList piece)
  | none => [v]

/-- The part of a value that some keys lead to. -/
def follow (v : Value) : List Value → Except RenderFault Value
  | [] => .ok v
  | key :: rest => do follow (← v.item key) rest

/-- Items joined by a separator. Where markup is escaped, markup among them or as the separator makes
    all of them markup. -/
def joinItems (escaping : Bool) (items : List Value) (separator : Value) :
    Except RenderFault Value := do
  if escaping && (isMarkup separator || items.any isMarkup) then
    let texts ← items.mapM (Value.shown true)
    return .markup ((← separator.shown true).intercalate texts)
  else
    let texts ← items.mapM Value.written
    return .ofText ((← separator.written).intercalate texts)

/-- The filter that joins items, or a part of each. -/
def join (escaping : Bool) (v : Value) (separator part : Option Value) :
    Except RenderFault Value := do
  let items ← v.items
  let items ← match part with
    | none => pure items
    | some (.plain .null) => pure items
    | some p => items.mapM fun x => follow x (pathOf p)
  joinItems escaping items (separator.getD (.ofText ""))

/-- A filter with its arguments. -/
def applyFilter (escaping : Bool) (name : String) (v : Value) (args : List Value)
    (named : List (String × Value)) : Except RenderFault Value := do
  match name with
  | "comment" =>
    let given ← argumentsFor ["style"] args named
    let style ← ((given.head?.join).getD (.ofText "//")).written
    return .ofText (commentLines style (← v.written))
  | "join" =>
    match ← argumentsFor ["d", "attribute"] args named with
    | [separator, part] => join escaping v separator part
    | _ => throw .unsupported
  | name =>
    discard (argumentsFor [] args named)
    match name with
    | "list" => return .list (← v.items)
    | "safe" => return .markup (← v.written)
    | "capitalize_first" => capitalizeValue v
    | "kebab_case" => return .ofText (splitOnCapitals (← v.written) "-")
    | "strip_extension" => return .ofText (stripExtension (← v.written))
    | _ => throw .unsupported

/-- A question about a value. -/
def ask (name : String) (v : Value) (args : List Value) (named : List (String × Value)) :
    Except RenderFault Bool := do
  discard (argumentsFor [] args named)
  let isUndefined := match v with
    | .undefined _ => true
    | _ => false
  match name with
  | "defined" => return !isUndefined
  | "undefined" => return isUndefined
  | "none" => return (match v with
    | .plain .null => true
    | _ => false)
  | _ => throw .unsupported

end DomainGen.Template
