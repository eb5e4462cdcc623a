import DomainGen.Template.Operators

/-!
# Rendering

The text of a template in a context.

* `Expr.eval` : the value of an expression. Names are looked up in the loops around it, the
  innermost first, then in the context, then among the few names every template has;
* `Part.render` : the text of a part;
* `Template.render` : the text of a template. The keys of the context must be texts other than
  `self`.

A loop with a condition goes through its items one after the other: a fault at an item is met after
the items before it have been shown.
-/

namespace DomainGen.Template

open Text

/-! ## 1. Scopes -/

/-- What names denote, and how output is written. -/
structure Scope where
  /-- The values of names, the innermost first. -/
  names : List (String × Value)
  /-- Is markup escaped in the output? -/
  escaping : Bool
  /-- The name of the template, if it has one. -/
  template : Option String
  deriving Inhabited

/-- The names every template has. -/
def commonNames : List (String × Value) :=
  [("range", .kind "range"), ("dict", .kind "dict"), ("cycler", .kind "jinja2.utils.Cycler"),
    ("joiner", .kind "jinja2.utils.Joiner"), ("namespace", .kind "jinja2.utils.Namespace")]

namespace Scope

/-- The value of a name. -/
def lookup (s : Scope) (name : String) : Value :=
  match s.names.lookup name with
  | some v => v
  | none =>
    if name == "self" then .template s.template
    else (commonNames.lookup name).getD (.undefined (.undefinedName name))

/-- The scope with more names. -/
def push (s : Scope) (more : List (String × Value)) : Scope :=
  { s with names := more ++ s.names }

end Scope

mutual

/-- The names a target gives to an item. An item with parts must have as many as the target. -/
def Target.bind : Target → Value → Except RenderFault (List (String × Value))
  | .name n, x => .ok [(n, x)]
  | .parts ts, x => do bindAll ts (← x.items)

/-- The names several targets give to as many items. A later one hides an earlier one. -/
def bindAll : List Target → List Value → Except RenderFault (List (String × Value))
  | [], [] => .ok []
  | t :: ts, x :: xs => do
    let first ← t.bind x
    return (← bindAll ts xs) ++ first
  | _, _ => .error .unsupported

end

/-- The item that the names of a target make up. -/
def Target.rebuild (names : List (String × Value)) : Target → Value
  | .name n => (names.lookup n).getD .null
  | .parts ts => .tuple (rebuildAll ts)
where
  /-- The items that the names of several targets make up. -/
  rebuildAll : List Target → List Value
    | [] => []
    | t :: ts => t.rebuild names :: rebuildAll ts

/-! ## 2. Expressions -/

mutual

/-- Does every number in a value have a notation as a literal? Only finite ones have. -/
def Value.isFinite : Value → Bool
  | .plain (.float x) => match x with
    | .finite _ _ _ => true
    | _ => false
  | .list xs => areFinite xs
  | .tuple xs => areFinite xs
  | .set xs => areFinite xs
  | .mapping es => entriesAreFinite es
  | _ => true

/-- `isFinite` of all of some values. -/
def areFinite : List Value → Bool
  | [] => true
  | x :: xs => x.isFinite && areFinite xs

/-- `isFinite` of all of some entries. -/
def entriesAreFinite : List (Value × Value) → Bool
  | [] => true
  | (k, v) :: es => k.isFinite && v.isFinite && entriesAreFinite es

end

/-- What a choice without an alternative denotes if its condition does not hold. -/
def noAlternative (template : Option String) (line : Nat) : Value :=
  let place := "line " ++ integerText line ++ (match template with
    | some n => " in " ++ quoted n
    | none => "")
  .undefined (.undefinedValue
    ("the inline if-expression on " ++ place
      ++ " evaluated to false and no else section was defined."))

mutual

/-- The value of an expression. -/
def Expr.eval (s : Scope) : Expr → Except RenderFault Value
  | .literal x => if x.isFinite then .ok x else .error .unsupported
  | .name n => .ok (s.lookup n)
  | .member e n => do (← e.eval s).member n
  | .item e (.stretch a b c) => do
    let v ← e.eval s
    let start ← evalBound s a
    let stop ← evalBound s b
    v.slice start stop (← evalBound s c)
  | .item e k => do
    let v ← e.eval s
    v.item (← k.eval s)
  | .stretch _ _ _ => .error .unsupported
  | .call e args named => do
    let v ← e.eval s
    let args ← evalAll s args
    v.call args (← evalNamed s named)
  | .filter name e args named => do
    let v ← e.eval s
    let args ← evalAll s args
    applyFilter s.escaping name v args (← evalNamed s named)
  | .test name e args named => do
    let v ← e.eval s
    let args ← evalAll s args
    return .ofBool (← ask name v args (← evalNamed s named))
  | .negation e => do return .ofBool (!(← e.eval s).isTrue)
  | .minus e => do negate (← e.eval s)
  | .plus e => do affirm (← e.eval s)
  | .conjunction a b => do
    let v ← a.eval s
    if v.isTrue then b.eval s else return v
  | .disjunction a b => do
    let v ← a.eval s
    if v.isTrue then return v else b.eval s
  | .compare first rest => do evalChain s (← first.eval s) rest
  | .binary op a b => do
    let v ← a.eval s
    let w ← b.eval s
    match op with
    | .add => add v w
    | .sub => subtract v w
  | .concatenation parts => do concatenate s.escaping (← evalAll s parts)
  | .choice value condition otherwise line => do
    if (← condition.eval s).isTrue then value.eval s
    else match otherwise with
      | some e => e.eval s
      | none => return noAlternative s.template line
  | .list items => do return .list (← evalAll s items)
  | .tuple items => do return .tuple (← evalAll s items)
  | .mapping entries => do
    let es ← evalEntries s entries
    if es.all fun e => e.1.hashable then return .mapping (Value.ofPairs es)
    else throw .unsupported

/-- The values of some expressions. -/
def evalAll (s : Scope) : List Expr → Except RenderFault (List Value)
  | [] => .ok []
  | e :: rest => do
    let v ← e.eval s
    return v :: (← evalAll s rest)

/-- The values of some named arguments. -/
def evalNamed (s : Scope) : List (String × Expr) → Except RenderFault (List (String × Value))
  | [] => .ok []
  | (n, e) :: rest => do
    let v ← e.eval s
    return (n, v) :: (← evalNamed s rest)

/-- The entries of a mapping. -/
def evalEntries (s : Scope) : List (Expr × Expr) → Except RenderFault (List (Value × Value))
  | [] => .ok []
  | (k, v) :: rest => do
    let key ← k.eval s
    let value ← v.eval s
    return (key, value) :: (← evalEntries s rest)

/-- The value of a bound of a stretch, where there is one. -/
def evalBound (s : Scope) : Option Expr → Except RenderFault (Option Value)
  | none => .ok none
  | some e => do return some (← e.eval s)

/-- A chain of comparisons from its first value on. It ends at the first that does not hold. -/
def evalChain (s : Scope) (v : Value) : List (Comparison × Expr) → Except RenderFault Value
  | [] => .ok (.ofBool true)
  | (c, e) :: rest => do
    let w ← e.eval s
    if ← compare c v w then evalChain s w rest else return .ofBool false

end

/-! ## 3. Parts -/

/-- The items of a loop, up to the first that cannot be had, and its fault. -/
structure Selection where
  /-- The items. -/
  items : List Value
  /-- The fault after them, if there is one. -/
  past : Option RenderFault

/-- The names of an item and whether a condition holds for it. -/
def tryItem (s : Scope) (target : Target) (condition : Expr) (x : Value) :
    Except RenderFault (List (String × Value) × Bool) := do
  let names ← target.bind x
  return (names, (← condition.eval (s.push names)).isTrue)

/-- The items of a loop that pass its condition, as the target takes them. -/
def passing (s : Scope) (target : Target) (condition : Expr) : List Value → Selection
  | [] => ⟨[], none⟩
  | x :: rest =>
    match tryItem s target condition x with
    | .error f => ⟨[], some f⟩
    | .ok (names, holds) =>
      let more := passing s target condition rest
      if holds then { more with items := target.rebuild names :: more.items } else more

mutual

/-- The text of a part. -/
def Part.render (s : Scope) : Part → Except RenderFault String
  | .text t => .ok t
  | .output e => do (← e.eval s).shown s.escaping
  | .choice branches otherwise => do
    match ← renderBranches s branches with
    | some text => return text
    | none => renderParts s otherwise
  | .loop target through only _ body otherwise => do
    let all ← (← through.eval s).items
    let selection : Selection := match only with
      | none => ⟨all, none⟩
      | some condition => passing s target condition all
    let texts ← selection.items.zipIdx.mapM fun (x, i) => do
      let names ← target.bind x
      renderParts (s.push (names ++ [("loop", .loop selection.items i selection.past)])) body
    match selection.past with
    | some f => throw f
    | none => if texts.isEmpty then renderParts s otherwise else return String.join texts

/-- The text of some parts. -/
def renderParts (s : Scope) : List Part → Except RenderFault String
  | [] => .ok ""
  | p :: rest => do
    let first ← p.render s
    return first ++ (← renderParts s rest)

/-- The text of the first branch whose condition holds. -/
def renderBranches (s : Scope) : List (Expr × List Part) → Except RenderFault (Option String)
  | [] => .ok none
  | (condition, body) :: rest => do
    if (← condition.eval s).isTrue then return some (← renderParts s body)
    else renderBranches s rest

end

/-! ## 4. Templates -/

/-- The names of a context. -/
def contextNames : Entries → Except RenderFault (List (String × Value))
  | [] => .ok []
  | (.text k, v) :: rest =>
    if k == "self" then .error .unsupported
    else do return (k, .ofData v) :: (← contextNames rest)
  | _ :: _ => .error .unsupported

end DomainGen.Template

namespace DomainGen

/-- The text of a template in a context. -/
def Template.render (t : Template) (context : Entries) : Except RenderFault String := do
  let names ← Template.contextNames context
  Template.renderParts ⟨names, t.escaping, t.name⟩ t.parts

end DomainGen
