import DomainGen.Template.Operators

/-!
# Constants in templates

Expressions that name nothing have a value before rendering.

* `Expr.constant?` : that value, if there is one. What only a fault can tell has none: it is left for
  rendering to meet;
* `Expr.fold` : an expression with its constant parts replaced by their values.

**Texts in a row that are all constant are joined as plain text**, even where markup is among them;
only rendering makes them markup.
-/

namespace DomainGen.Template

/-! ## 1. The value of a constant -/

/-- A constant stretch of a constant. Without such a stretch it is undefined, and a step of zero is
    left for rendering. -/
def stretchOf? (v : Value) (start stop step : Option Value) : Option Value :=
  match v, step.bind Value.integer? with
  | .undefined _, _ => none
  | _, some 0 => none
  | v, _ => match v.slice start stop step with
    | .ok x => some x
    | .error _ => some (.undefined .unsupported)

mutual

/-- The value of an expression without names, if it has one. -/
def Expr.constant? (escaping : Bool) : Expr → Option Value
  | .literal x => some x
  | .name _ => none
  | .member e n => do ((← e.constant? escaping).member n).toOption
  | .item e (.stretch a b c) => do
    let v ← e.constant? escaping
    stretchOf? v (← boundConstant escaping a) (← boundConstant escaping b)
      (← boundConstant escaping c)
  | .item e k => do
    let v ← e.constant? escaping
    (v.item (← k.constant? escaping)).toOption
  | .stretch _ _ _ => none
  | .call _ _ _ => none
  | .filter name e args named => do
    let args ← constants escaping args
    let named ← namedConstants escaping named
    (applyFilter escaping name (← e.constant? escaping) args named).toOption
  | .test name e args named => do
    let args ← constants escaping args
    let named ← namedConstants escaping named
    (ask name (← e.constant? escaping) args named).toOption.map Value.ofBool
  | .negation e => (e.constant? escaping).map fun v => .ofBool (!v.isTrue)
  | .minus e => do (negate (← e.constant? escaping)).toOption
  | .plus e => do (affirm (← e.constant? escaping)).toOption
  | .conjunction a b => do
    let v ← a.constant? escaping
    if v.isTrue then b.constant? escaping else some v
  | .disjunction a b => do
    let v ← a.constant? escaping
    if v.isTrue then some v else b.constant? escaping
  | .compare first rest => do chainConstant escaping (← first.constant? escaping) rest
  | .binary op a b => do
    let v ← a.constant? escaping
    let w ← b.constant? escaping
    match op with
    | .add => (add v w).toOption
    | .sub => (subtract v w).toOption
  | .concatenation parts => do
    let texts ← (← constants escaping parts).mapM fun v => v.written.toOption
    some (.ofText (String.join texts))
  | .choice value condition otherwise _ => do
    if (← condition.constant? escaping).isTrue then value.constant? escaping
    else match otherwise with
      | some e => e.constant? escaping
      | none => none
  | .list items => (constants escaping items).map .list
  | .tuple items => (constants escaping items).map .tuple
  | .mapping entries => do
    let es ← entryConstants escaping entries
    if es.all fun e => e.1.hashable then some (.mapping (Value.ofPairs es)) else none

/-- The values of some expressions, if all have one. -/
def constants (escaping : Bool) : List Expr → Option (List Value)
  | [] => some []
  | e :: rest => do
    let v ← e.constant? escaping
    some (v :: (← constants escaping rest))

/-- The values of some named arguments, if all have one. Of two with one name the later counts. -/
def namedConstants (escaping : Bool) : List (String × Expr) → Option (List (String × Value))
  | [] => some []
  | (n, e) :: rest => do
    let v ← e.constant? escaping
    let more ← namedConstants escaping rest
    some (if more.any (·.1 == n) then more else (n, v) :: more)

/-- The values of some entries, if all have one. -/
def entryConstants (escaping : Bool) : List (Expr × Expr) → Option (List (Value × Value))
  | [] => some []
  | (k, v) :: rest => do
    let key ← k.constant? escaping
    let value ← v.constant? escaping
    some ((key, value) :: (← entryConstants escaping rest))

/-- The value of a bound of a stretch, where there is one. -/
def boundConstant (escaping : Bool) : Option Expr → Option (Option Value)
  | none => some none
  | some e => (e.constant? escaping).map some

/-- The value of a chain of comparisons from its first value on. -/
def chainConstant (escaping : Bool) (v : Value) : List (Comparison × Expr) → Option Value
  | [] => some (.ofBool true)
  | (c, e) :: rest => do
    let w ← e.constant? escaping
    if ← (compare c v w).toOption then chainConstant escaping w rest else some (.ofBool false)

end

/-! ## 2. Replacing constants by their values -/

mutual

/-- Can the value stand in an expression as a literal? -/
def Value.isLiteral : Value → Bool
  | .plain .null => true
  | .plain (.bool _) => true
  | .plain (.int _) => true
  | .plain (.float _) => true
  | .plain (.text _) => true
  | .markup _ => true
  | .list xs => areLiterals xs
  | .tuple xs => areLiterals xs
  | .set xs => areLiterals xs
  | .mapping es => entriesAreLiterals es
  | _ => false

/-- Can the values stand in an expression? -/
def areLiterals : List Value → Bool
  | [] => true
  | x :: xs => x.isLiteral && areLiterals xs

/-- Can the entries stand in an expression? -/
def entriesAreLiterals : List (Value × Value) → Bool
  | [] => true
  | (k, v) :: es => k.isLiteral && v.isLiteral && entriesAreLiterals es

end

/-- The values of the expressions before the first one that has none. -/
def leadingConstants (escaping : Bool) (es : List Expr) : List Value :=
  (es.map fun e => e.constant? escaping).takeWhile Option.isSome |>.filterMap id

/-- The keys of the entries before the first one that is not constant. -/
def leadingKeys (escaping : Bool) (entries : List (Expr × Expr)) : List Value :=
  let es := entries.takeWhile fun e =>
    (e.1.constant? escaping).isSome && (e.2.constant? escaping).isSome
  es.filterMap fun e => e.1.constant? escaping

/-- An expression whose parts are folded, folded itself. Constants joined must have a text, and
    constant keys must be keys, as far as all before them is constant too. -/
def Expr.settle (escaping : Bool) (e : Expr) : Except Fault Expr := do
  match e with
  | .concatenation parts =>
    if !(leadingConstants escaping parts).all Value.hasText then throw .badValue
  | .mapping entries =>
    if !(leadingKeys escaping entries).all Value.hashable then throw .wrongKind
  | _ => pure ()
  match e.constant? escaping with
  | some v => return if v.isLiteral then .literal v else e
  | none => return e

mutual

/-- An expression with its constant parts replaced by their values. -/
def Expr.fold (escaping : Bool) : Expr → Except Fault Expr
  | .literal x => .ok (.literal x)
  | .name n => .ok (.name n)
  | .member e n => do (Expr.member (← e.fold escaping) n).settle escaping
  | .item e k => do (Expr.item (← e.fold escaping) (← k.fold escaping)).settle escaping
  | .stretch a b c => do
    return .stretch (← foldBound escaping a) (← foldBound escaping b) (← foldBound escaping c)
  | .call e args named => do
    return .call (← e.fold escaping) (← foldAll escaping args) (← foldNamed escaping named)
  | .filter name e args named => do
    let e ← e.fold escaping
    let args ← foldAll escaping args
    (Expr.filter name e args (← foldNamed escaping named)).settle escaping
  | .test name e args named => do
    let e ← e.fold escaping
    let args ← foldAll escaping args
    (Expr.test name e args (← foldNamed escaping named)).settle escaping
  | .negation e => do (Expr.negation (← e.fold escaping)).settle escaping
  | .minus e => do (Expr.minus (← e.fold escaping)).settle escaping
  | .plus e => do (Expr.plus (← e.fold escaping)).settle escaping
  | .conjunction a b => do
    (Expr.conjunction (← a.fold escaping) (← b.fold escaping)).settle escaping
  | .disjunction a b => do
    (Expr.disjunction (← a.fold escaping) (← b.fold escaping)).settle escaping
  | .compare first rest => do
    (Expr.compare (← first.fold escaping) (← foldCompared escaping rest)).settle escaping
  | .binary op a b => do
    (Expr.binary op (← a.fold escaping) (← b.fold escaping)).settle escaping
  | .concatenation parts => do
    (Expr.concatenation (← foldAll escaping parts)).settle escaping
  | .choice value condition otherwise line => do
    let condition ← condition.fold escaping
    let value ← value.fold escaping
    (Expr.choice value condition (← foldBound escaping otherwise) line).settle escaping
  | .list items => do (Expr.list (← foldAll escaping items)).settle escaping
  | .tuple items => do (Expr.tuple (← foldAll escaping items)).settle escaping
  | .mapping entries => do (Expr.mapping (← foldEntries escaping entries)).settle escaping

/-- Some expressions, each folded. -/
def foldAll (escaping : Bool) : List Expr → Except Fault (List Expr)
  | [] => .ok []
  | e :: rest => do
    let e ← e.fold escaping
    return e :: (← foldAll escaping rest)

/-- Some named arguments, each folded. -/
def foldNamed (escaping : Bool) : List (String × Expr) → Except Fault (List (String × Expr))
  | [] => .ok []
  | (n, e) :: rest => do
    let e ← e.fold escaping
    return (n, e) :: (← foldNamed escaping rest)

/-- Some compared expressions, each folded. -/
def foldCompared (escaping : Bool) :
    List (Comparison × Expr) → Except Fault (List (Comparison × Expr))
  | [] => .ok []
  | (c, e) :: rest => do
    let e ← e.fold escaping
    return (c, e) :: (← foldCompared escaping rest)

/-- Some entries, each folded. -/
def foldEntries (escaping : Bool) : List (Expr × Expr) → Except Fault (List (Expr × Expr))
  | [] => .ok []
  | (k, v) :: rest => do
    let k ← k.fold escaping
    let v ← v.fold escaping
    return (k, v) :: (← foldEntries escaping rest)

/-- An expression that may be missing, folded. -/
def foldBound (escaping : Bool) : Option Expr → Except Fault (Option Expr)
  | none => .ok none
  | some e => do return some (← e.fold escaping)

end

end DomainGen.Template
