import DomainGen.Data.Sequence
import DomainGen.Data.Text
import DomainGen.Text.Markup

/-!
# Values in templates

What expressions of a template denote: plain values, texts that are markup already, and values that
exist only while rendering. A name or a member that is not there denotes an undefined value, which
shows as nothing and has no items; asking anything more of it fails.

* `RenderFault` : why more cannot be asked of a value;
* `Value.ofData` : the value of plain data;
* `Value.inner`, `Value.text` : the form inside a list or a mapping, and the text on its own;
* `Value.isTrue`, `Value.items` : a value as a condition and as a sequence;
* `Value.equal`, `Value.sameItem` : equality of values, and of items and keys.
-/

namespace DomainGen.Template

open Text

/-- Why a template could be read but not rendered. -/
inductive RenderFault where
  /-- Something was asked of a name that has no value. -/
  | undefinedName (name : String)
  /-- Something was asked of a member that a value does not have; the member is given in quotes. -/
  | undefinedMember (holder member : String)
  /-- Something was asked of an item that a value does not have. -/
  | undefinedItem (holder key : String)
  /-- Something was asked of a value that is missing for a reason of its own. -/
  | undefinedValue (reason : String)
  /-- An operation is not defined on a value. -/
  | unsupported
  deriving DecidableEq, Repr, Inhabited

/-- The wording of a missing value; other faults have none. -/
def RenderFault.detail : RenderFault → Option String
  | undefinedName name => some (Text.quoted name ++ " is undefined")
  | undefinedMember holder member =>
    some (Text.quoted holder ++ " has no attribute " ++ member)
  | undefinedItem holder key => some (holder ++ " has no element " ++ key)
  | undefinedValue reason => some reason
  | unsupported => none

/-- What a view of a mapping shows. -/
inductive View where
  | items
  | keys
  | values
  deriving DecidableEq, Repr, Inhabited

/-- The name of a kind of view. -/
def View.label : View → String
  | items => "dict_items"
  | keys => "dict_keys"
  | values => "dict_values"

/-- A value. -/
inductive Value where
  /-- A plain value that holds no others. -/
  | plain (d : Data)
  /-- A text that is markup already. -/
  | markup (s : String)
  /-- Nothing; the fault is that of asking more of it. -/
  | undefined (f : RenderFault)
  /-- A time zone, by its minutes east of universal time. -/
  | zone (offset : Int)
  | span (s : Span)
  /-- The kind of a value, by its full name. -/
  | kind (name : String)
  | list (items : List Value)
  | tuple (items : List Value)
  | set (items : List Value)
  | mapping (entries : List (Value × Value))
  /-- A view of a mapping. -/
  | view (v : View) (entries : List (Value × Value))
  /-- A loop over items, at the item at a position; the fault is that of looking past the last one
      of them. -/
  | loop (items : List Value) (position : Nat) (past : Option RenderFault)
  /-- A method of a value. -/
  | method (holder : Value) (name : String)
  /-- The template itself, by its name. -/
  | template (name : Option String)
  deriving Repr, Inhabited

namespace Value

/-- A text. -/
abbrev ofText (s : String) : Value := .plain (.text s)

/-- An integer. -/
abbrev ofInt (i : Int) : Value := .plain (.int i)

/-- A truth value. -/
abbrev ofBool (b : Bool) : Value := .plain (.bool b)

/-- Null. -/
abbrev null : Value := .plain .null

mutual

/-- The value of plain data. -/
def ofData : Data → Value
  | .list xs => .list (ofItems xs)
  | .tuple xs => .tuple (ofItems xs)
  | .set xs => .set (ofItems xs)
  | .mapping es => .mapping (ofEntries es)
  | d => .plain d

/-- The values of some plain data. -/
def ofItems : List Data → List Value
  | [] => []
  | x :: xs => ofData x :: ofItems xs

/-- The values of some entries. -/
def ofEntries : List (Data × Data) → List (Value × Value)
  | [] => []
  | (k, v) :: es => (ofData k, ofData v) :: ofEntries es

end

/-! ## 1. Kinds -/

/-- The name of the value's kind, with what it belongs to. -/
def kindName : Value → String
  | .plain (.date _) => "datetime.date"
  | .plain (.moment _) => "datetime.datetime"
  | .plain d => d.kindName
  | .markup _ => "markupsafe.Markup"
  | .undefined _ => "jinja2.runtime.Undefined"
  | .zone _ => "datetime.timezone"
  | .span _ => "datetime.timedelta"
  | .kind _ => "type"
  | .list _ => "list"
  | .tuple _ => "tuple"
  | .set _ => "set"
  | .mapping _ => "dict"
  | .view v _ => v.label
  | .loop .. => "jinja2.runtime.LoopContext"
  | .method .. => "builtin_function_or_method"
  | .template _ => "jinja2.runtime.TemplateReference"

/-- How messages call a value. -/
def holderName : Value → String
  | .plain .null => "None"
  | v => v.kindName ++ " object"

/-! ## 2. Texts -/

mutual

/-- The form of a value inside a list or a mapping. That of a method names where the method lies in
    memory, which nothing here says: `hasText` is false of it, and it is never shown. -/
def inner : Value → String
  | .plain d => d.inner
  | .markup s => "Markup(" ++ quoted s ++ ")"
  | .undefined _ => "Undefined"
  | .zone o => Moment.offsetInner o
  | .span s => s.inner
  | .kind name => "<class '" ++ name ++ "'>"
  | .list xs => "[" ++ ", ".intercalate (innerItems xs) ++ "]"
  | .tuple [x] => "(" ++ inner x ++ ",)"
  | .tuple xs => "(" ++ ", ".intercalate (innerItems xs) ++ ")"
  | .set [] => "set()"
  | .set xs => "\x7b" ++ ", ".intercalate (innerItems xs) ++ "\x7d"
  | .mapping es => "\x7b" ++ ", ".intercalate (innerEntries es) ++ "\x7d"
  | .view v es => v.label ++ "([" ++ ", ".intercalate (innerView v es) ++ "])"
  | .loop xs i _ =>
    "<LoopContext " ++ integerText (i + 1 : Nat) ++ "/" ++ integerText xs.length ++ ">"
  | .method _ _ => ""
  | .template name => "<TemplateReference " ++ (name.map quoted).getD "None" ++ ">"

/-- The forms of several values. -/
def innerItems : List Value → List String
  | [] => []
  | x :: xs => inner x :: innerItems xs

/-- The forms of several entries. -/
def innerEntries : List (Value × Value) → List String
  | [] => []
  | (k, v) :: es => (inner k ++ ": " ++ inner v) :: innerEntries es

/-- The forms of what a view shows. -/
def innerView (view : View) : List (Value × Value) → List String
  | [] => []
  | (k, v) :: es =>
    (match view with
      | .items => "(" ++ inner k ++ ", " ++ inner v ++ ")"
      | .keys => inner k
      | .values => inner v) :: innerView view es

end

/-- The text of a value on its own. -/
def text : Value → String
  | .plain d => d.plain
  | .markup s => s
  | .undefined _ => ""
  | .zone o => Moment.offsetName o
  | .span s => s.text
  | v => v.inner

mutual

/-- Has the value a text? An integer of too many digits has none, nor has a method one that could be
    told. -/
def hasText : Value → Bool
  | .plain d => d.hasText
  | .method _ _ => false
  | .list xs => haveText xs
  | .tuple xs => haveText xs
  | .set xs => haveText xs
  | .mapping es => entriesHaveText es
  | .view _ es => entriesHaveText es
  | _ => true

/-- `hasText` of all of some values. -/
def haveText : List Value → Bool
  | [] => true
  | x :: xs => hasText x && haveText xs

/-- `hasText` of all of some entries. -/
def entriesHaveText : List (Value × Value) → Bool
  | [] => true
  | (k, v) :: es => hasText k && hasText v && entriesHaveText es

end

/-- The text of a value, if it has one. -/
def written (v : Value) : Except RenderFault String :=
  match v with
  | .loop _ _ (some f) => .error f
  | v => if v.hasText then .ok v.text else .error .unsupported

/-- The value as it shows in the output: with markup escaped or as it is. -/
def shown (escaping : Bool) (v : Value) : Except RenderFault String :=
  match v with
  | .markup s => .ok s
  | v => (v.written).map fun s => if escaping then escapeMarkup s else s

/-! ## 3. Conditions and sequences -/

/-- Does the value count as true? -/
def isTrue : Value → Bool
  | .plain d => d.isTrue
  | .markup s => s != ""
  | .undefined _ => false
  | .span s => s.micros != 0
  | .list xs => !xs.isEmpty
  | .tuple xs => !xs.isEmpty
  | .set xs => !xs.isEmpty
  | .mapping es => !es.isEmpty
  | .view _ es => !es.isEmpty
  | _ => true

/-- What a view shows. -/
def viewItems (v : View) (es : List (Value × Value)) : List Value :=
  es.map fun e => match v with
    | .items => .tuple [e.1, e.2]
    | .keys => e.1
    | .values => e.2

/-- The items of a value, if it has any. -/
def items? : Value → Option (List Value)
  | .plain d => d.items?.map ofItems
  | .markup s => some (s.toList.map fun c => ofText (String.singleton c))
  | .undefined _ => some []
  | .list xs => some xs
  | .tuple xs => some xs
  | .set xs => some xs
  | .mapping es => some (es.map (·.1))
  | .view v es => some (viewItems v es)
  | _ => none

/-- The items of a value. -/
def items (v : Value) : Except RenderFault (List Value) :=
  match v.items? with
  | some xs => .ok xs
  | none => .error .unsupported

/-- The text of a value that is a text, marked or not. -/
def text? : Value → Option String
  | .plain (.text s) => some s
  | .markup s => some s
  | _ => none

/-- The number a value counts as, if it is an integer or a truth value. -/
def integer? : Value → Option Int
  | .plain d => d.integer?
  | _ => none

/-! ## 4. Equality -/

/-- Are both the same occurrence of not-a-number? -/
def sameNan : Value → Value → Bool
  | .plain x, .plain y => x.sameNan y
  | _, _ => false

mutual

/-- Equality of values. Markup equals the text it consists of, and nothing equals nothing. The
    views of keys and of items compare as sets do; a view of values equals no other. -/
def equal : Value → Value → Bool
  | .plain x, .plain y => x.equal y
  | .markup s, .markup t => s == t
  | .markup s, .plain (.text t) => s == t
  | .plain (.text s), .markup t => s == t
  | .undefined _, .undefined _ => true
  | .zone a, .zone b => a == b
  | .span a, .span b => a == b
  | .kind a, .kind b => a == b
  | .list xs, .list ys => equalItems xs ys
  | .tuple xs, .tuple ys => equalItems xs ys
  | .set xs, .set ys => xs.length == ys.length && eachAmong xs ys
  | .mapping xs, .mapping ys => xs.length == ys.length && eachEntryAmong xs ys
  | .view .items xs, .view .items ys => xs.length == ys.length && eachEntryAmong xs ys
  | .view .keys xs, .view .keys ys => xs.length == ys.length && eachKeyAmong xs ys
  | .view .keys xs, .set ys => xs.length == ys.length && eachKeyIn xs ys
  | .loop xs i _, .loop ys j _ => i == j && equalItems xs ys
  | .method h m, .method k n => m == n && equal h k
  | .template a, .template b => a == b
  | _, _ => false

/-- Item by item. -/
def equalItems : List Value → List Value → Bool
  | [], [] => true
  | x :: xs, y :: ys => (sameNan x y || equal x y) && equalItems xs ys
  | _, _ => false

/-- Each item of the first list equals one of the second. -/
def eachAmong : List Value → List Value → Bool
  | [], _ => true
  | x :: xs, ys => ys.any (fun y => sameNan x y || equal x y) && eachAmong xs ys

/-- Each entry of the first list equals one of the second. -/
def eachEntryAmong : List (Value × Value) → List (Value × Value) → Bool
  | [], _ => true
  | (k, v) :: xs, ys =>
    ys.any (fun e => (sameNan k e.1 || equal k e.1) && (sameNan v e.2 || equal v e.2))
      && eachEntryAmong xs ys

/-- Each key of the first list equals one of the second. -/
def eachKeyAmong : List (Value × Value) → List (Value × Value) → Bool
  | [], _ => true
  | (k, _) :: xs, ys => ys.any (fun e => sameNan k e.1 || equal k e.1) && eachKeyAmong xs ys

/-- Each key of the first list equals one of some values. -/
def eachKeyIn : List (Value × Value) → List Value → Bool
  | [], _ => true
  | (k, _) :: xs, ys => ys.any (fun y => sameNan k y || equal k y) && eachKeyIn xs ys

end

/-- Equality of items and of keys: an occurrence of not-a-number is the same as itself. -/
def sameItem (x y : Value) : Bool := sameNan x y || equal x y

/-! ## 5. Mappings -/

/-- Can the value be a key? -/
def hashable : Value → Bool
  | .plain d => d.hashable
  | .list _ => false
  | .set _ => false
  | .mapping _ => false
  | .view .values _ => true
  | .view _ _ => false
  | .tuple items => hashableItems items
  | _ => true
where
  /-- Can every item be a key? -/
  hashableItems : List Value → Bool
    | [] => true
    | x :: xs => hashable x && hashableItems xs

/-- The value of a key. -/
def lookup? (es : List (Value × Value)) (key : Value) : Option Value :=
  (es.find? fun e => e.1.sameItem key).map (·.2)

/-- The entries with one written: in place if the key is there, else at the end. -/
def put : List (Value × Value) → Value → Value → List (Value × Value)
  | [], key, value => [(key, value)]
  | (k, v) :: rest, key, value =>
    if k.sameItem key then (k, value) :: rest else (k, v) :: put rest key value

/-- The mapping a list of entries denotes when later entries overwrite earlier ones. -/
def ofPairs (es : List (Value × Value)) : List (Value × Value) :=
  es.foldl (fun acc e => put acc e.1 e.2) []

end Value

end DomainGen.Template
