import DomainGen.Template.Folding
import DomainGen.Template.Reading

/-!
# Preparing templates

What stands between reading a source and rendering it.

* `Part.prepare` : a part with its constants replaced by their values. Filters and questions must
  exist; one inside a choice only when that is rendered;
* `partsLevel`, `fitsBlocks`, `isSoundPart` : the limits a template keeps. Statements nest at most 99
  levels deep and loops twenty, an argument has its name once, and several keys in brackets are
  single ones;
* `Template.ofSource` : the template of a source.
-/

namespace DomainGen.Template

/-! ## 1. Filters and questions -/

/-- The filters there are. -/
def filterNames : List String :=
  ["list", "join", "safe", "capitalize_first", "kebab_case", "strip_extension", "comment"]

/-- The questions there are. -/
def questionNames : List String := ["defined", "undefined", "none"]

/-- A name that must be one of some. -/
def require (known : Bool) : Except Defect Unit :=
  if known then .ok () else .error .form

mutual

/-- Passes an expression whose filters and questions exist and whose literals have a text. In a
    choice the former need not exist. -/
def Expr.check (inChoice : Bool) : Expr → Except Defect Unit
  | .literal x => if x.hasText then .ok () else .error (.fault .badValue)
  | .name _ => .ok ()
  | .member e _ => e.check inChoice
  | .item e k => do
    e.check inChoice
    k.check inChoice
  | .stretch a b c => do
    checkBound inChoice a
    checkBound inChoice b
    checkBound inChoice c
  | .call e args named => do
    e.check inChoice
    checkAll inChoice args
    checkNamed inChoice named
  | .filter name e args named => do
    require (inChoice || filterNames.contains name)
    e.check inChoice
    checkAll inChoice args
    checkNamed inChoice named
  | .test name e args named => do
    require (inChoice || questionNames.contains name)
    e.check inChoice
    checkAll inChoice args
    checkNamed inChoice named
  | .negation e => e.check inChoice
  | .minus e => e.check inChoice
  | .plus e => e.check inChoice
  | .conjunction a b => do
    a.check inChoice
    b.check inChoice
  | .disjunction a b => do
    a.check inChoice
    b.check inChoice
  | .compare first rest => do
    first.check inChoice
    checkCompared inChoice rest
  | .binary _ a b => do
    a.check inChoice
    b.check inChoice
  | .concatenation parts => checkAll inChoice parts
  | .choice value condition otherwise _ => do
    value.check true
    condition.check true
    checkBound true otherwise
  | .list items => checkAll inChoice items
  | .tuple items => checkAll inChoice items
  | .mapping entries => checkEntries inChoice entries

/-- Passes some expressions. -/
def checkAll (inChoice : Bool) : List Expr → Except Defect Unit
  | [] => .ok ()
  | e :: rest => do
    e.check inChoice
    checkAll inChoice rest

/-- Passes some named arguments. -/
def checkNamed (inChoice : Bool) : List (String × Expr) → Except Defect Unit
  | [] => .ok ()
  | (_, e) :: rest => do
    e.check inChoice
    checkNamed inChoice rest

/-- Passes some compared expressions. -/
def checkCompared (inChoice : Bool) : List (Comparison × Expr) → Except Defect Unit
  | [] => .ok ()
  | (_, e) :: rest => do
    e.check inChoice
    checkCompared inChoice rest

/-- Passes some entries. -/
def checkEntries (inChoice : Bool) : List (Expr × Expr) → Except Defect Unit
  | [] => .ok ()
  | (k, v) :: rest => do
    k.check inChoice
    v.check inChoice
    checkEntries inChoice rest

/-- Passes an expression that may be missing. -/
def checkBound (inChoice : Bool) : Option Expr → Except Defect Unit
  | none => .ok ()
  | some e => e.check inChoice

end

/-! ## 2. Expressions -/

/-- An expression that is not a list, tuple or mapping, prepared. -/
def Expr.foldAndCheck (escaping inChoice : Bool) (e : Expr) : Except Defect Expr := do
  let e ← (e.fold escaping).mapError .fault
  e.check inChoice
  return e

mutual

/-- An expression with its constants replaced by their values. A list, tuple or mapping stays what it
    is, with its items prepared. -/
def Expr.prepare (escaping inChoice : Bool) : Expr → Except Defect Expr
  | .list items => do return .list (← prepareAll escaping inChoice items)
  | .tuple items => do return .tuple (← prepareAll escaping inChoice items)
  | .mapping entries => do return .mapping (← prepareEntries escaping inChoice entries)
  | e => e.foldAndCheck escaping inChoice

/-- Some expressions, each prepared. -/
def prepareAll (escaping inChoice : Bool) : List Expr → Except Defect (List Expr)
  | [] => .ok []
  | e :: rest => do
    let e ← e.prepare escaping inChoice
    return e :: (← prepareAll escaping inChoice rest)

/-- Some entries, each prepared. -/
def prepareEntries (escaping inChoice : Bool) :
    List (Expr × Expr) → Except Defect (List (Expr × Expr))
  | [] => .ok []
  | (k, v) :: rest => do
    let k ← k.prepare escaping inChoice
    let v ← v.prepare escaping inChoice
    return (k, v) :: (← prepareEntries escaping inChoice rest)

end

/-! ## 3. Parts -/

/-- The names in a target. -/
def Target.names : Target → List String
  | .name n => [n]
  | .parts ts => namesOf ts
where
  /-- The names in some targets. -/
  namesOf : List Target → List String
    | [] => []
    | t :: ts => t.names ++ namesOf ts

/-- The text of an output that is constant, if it has one. -/
def constantText? (escaping : Bool) (e : Expr) : Option String := do
  ((← e.constant? escaping).shown escaping).toOption

mutual

/-- A part with its constants replaced by their values. Loops bind the name `loop` themselves. -/
def Part.prepare (escaping inChoice : Bool) : Part → Except Defect Part
  | .text s => .ok (.text s)
  | .output e => match constantText? escaping e with
    | some s => .ok (.text s)
    | none => do return .output (← e.prepare escaping inChoice)
  | .choice branches otherwise => do
    let branches ← prepareBranches escaping branches
    return .choice branches (← prepareParts escaping true otherwise)
  | .loop target through only again body otherwise => do
    let only ← match only with
      | none => pure none
      | some e => some <$> e.prepare escaping false
    require (!target.names.contains "loop")
    let through ← through.prepare escaping inChoice
    let body ← prepareParts escaping false body
    return .loop target through only again body (← prepareParts escaping false otherwise)

/-- Some parts, each prepared. -/
def prepareParts (escaping inChoice : Bool) : List Part → Except Defect (List Part)
  | [] => .ok []
  | p :: rest => do
    let p ← p.prepare escaping inChoice
    return p :: (← prepareParts escaping inChoice rest)

/-- Some branches, each prepared. -/
def prepareBranches (escaping : Bool) :
    List (Expr × List Part) → Except Defect (List (Expr × List Part))
  | [] => .ok []
  | (e, body) :: rest => do
    let e ← e.prepare escaping true
    let body ← prepareParts escaping true body
    return (e, body) :: (← prepareBranches escaping rest)

end

/-! ## 4. Limits -/

/-- The levels that the condition of a loop takes. -/
def conditionLevels : Nat := 3

mutual

/-- The deepest level that some parts reach, from a level on. -/
def partsLevel (level : Nat) : List Part → Nat
  | [] => level
  | p :: rest => max (p.level level) (partsLevel level rest)

/-- The deepest level that a part reaches, from a level on. -/
def Part.level (level : Nat) : Part → Nat
  | .text _ => level
  | .output _ => level
  | .choice branches otherwise =>
    max (branchesLevel (level + 1) branches)
      (if otherwise.isEmpty then level else partsLevel (level + 1) otherwise)
  | .loop _ _ only again body otherwise =>
    let own := if again then level + 1 else level
    max (if only.isSome then level + conditionLevels else level)
      (max (partsLevel (own + 1) body)
        (if otherwise.isEmpty then own else partsLevel (own + 1) otherwise))

/-- The deepest level that some branches reach. -/
def branchesLevel (level : Nat) : List (Expr × List Part) → Nat
  | [] => level
  | (_, body) :: rest => max (partsLevel level body) (branchesLevel level rest)

end

/-- The deepest level there is. -/
def maxLevel : Nat := 99

/-- How many loops nest. -/
def maxLoops : Nat := 20

mutual

/-- Do the loops in some parts nest no deeper than allowed, with some around them? -/
def fitsBlocks (around : Nat) : List Part → Bool
  | [] => true
  | p :: rest => p.fitsBlocks around && fitsBlocks around rest

/-- Do the loops in a part nest no deeper than allowed, with some around it? -/
def Part.fitsBlocks (around : Nat) : Part → Bool
  | .text _ => true
  | .output _ => true
  | .choice branches otherwise => branchesFitBlocks around branches && fitsBlocks around otherwise
  | .loop _ _ _ again body otherwise =>
    let around := if again then 0 else around
    around < maxLoops && fitsBlocks (around + 1) body && fitsBlocks around otherwise

/-- Do the loops in some branches nest no deeper than allowed? -/
def branchesFitBlocks (around : Nat) : List (Expr × List Part) → Bool
  | [] => true
  | (_, body) :: rest => fitsBlocks around body && branchesFitBlocks around rest

end

/-- Names that may be given twice to arguments: the reserved words. -/
def reservedWords : List String :=
  ["False", "None", "True", "and", "as", "assert", "async", "await", "break", "class", "continue",
    "def", "del", "elif", "else", "except", "finally", "for", "from", "global", "if", "import", "in",
    "is", "lambda", "nonlocal", "not", "or", "pass", "raise", "return", "try", "while", "with",
    "yield"]

/-- Does no name occur twice, or a reserved word at all? -/
def areDistinct (names : List String) : Bool :=
  names.any reservedWords.contains || names.Nodup

/-- Is the expression a stretch of places? -/
def Expr.isStretch : Expr → Bool
  | .stretch _ _ _ => true
  | _ => false

mutual

/-- Does the expression give each argument once, and stretches only alone in brackets? -/
def Expr.isSound : Expr → Bool
  | .literal _ => true
  | .name _ => true
  | .member e _ => e.isSound
  | .item e k => e.isSound && k.isSound
  | .stretch a b c => isSoundBound a && isSoundBound b && isSoundBound c
  | .call e args named =>
    areDistinct (named.map (·.1)) && e.isSound && areSound args && areSoundNamed named
  | .filter _ e args named =>
    areDistinct (named.map (·.1)) && e.isSound && areSound args && areSoundNamed named
  | .test _ e args named =>
    areDistinct (named.map (·.1)) && e.isSound && areSound args && areSoundNamed named
  | .negation e => e.isSound
  | .minus e => e.isSound
  | .plus e => e.isSound
  | .conjunction a b => a.isSound && b.isSound
  | .disjunction a b => a.isSound && b.isSound
  | .compare first rest => first.isSound && areSoundCompared rest
  | .binary _ a b => a.isSound && b.isSound
  | .concatenation parts => areSound parts
  | .choice value condition otherwise _ =>
    value.isSound && condition.isSound && isSoundBound otherwise
  | .list items => areSound items
  | .tuple items => !items.any Expr.isStretch && areSound items
  | .mapping entries => areSoundEntries entries

/-- `isSound` of all of some expressions. -/
def areSound : List Expr → Bool
  | [] => true
  | e :: rest => e.isSound && areSound rest

/-- `isSound` of all of some named arguments. -/
def areSoundNamed : List (String × Expr) → Bool
  | [] => true
  | (_, e) :: rest => e.isSound && areSoundNamed rest

/-- `isSound` of all of some compared expressions. -/
def areSoundCompared : List (Comparison × Expr) → Bool
  | [] => true
  | (_, e) :: rest => e.isSound && areSoundCompared rest

/-- `isSound` of all of some entries. -/
def areSoundEntries : List (Expr × Expr) → Bool
  | [] => true
  | (k, v) :: rest => k.isSound && v.isSound && areSoundEntries rest

/-- `isSound` of an expression that may be missing. -/
def isSoundBound : Option Expr → Bool
  | none => true
  | some e => e.isSound

end

mutual

/-- Are the expressions of a part sound? -/
def isSoundPart : Part → Bool
  | .text _ => true
  | .output e => e.isSound
  | .choice branches otherwise => areSoundBranches branches && areSoundParts otherwise
  | .loop _ through only _ body otherwise =>
    through.isSound && isSoundBound only && areSoundParts body && areSoundParts otherwise

/-- Are the expressions of some parts sound? -/
def areSoundParts : List Part → Bool
  | [] => true
  | p :: rest => isSoundPart p && areSoundParts rest

/-- Are the expressions of some branches sound? -/
def areSoundBranches : List (Expr × List Part) → Bool
  | [] => true
  | (e, body) :: rest => e.isSound && areSoundParts body && areSoundBranches rest

end

/-! ## 5. Templates -/

/-- The template of a source, under a name if it has one. -/
def ofSource (name : Option String) (escaping : Bool) (source : String) :
    Except Defect Template := do
  let parts ← prepareParts escaping false (← readSource source)
  if maxLevel < partsLevel 1 parts then throw (.fault .tooIndented)
  if !(areSoundParts parts && fitsBlocks 0 parts) then throw (.fault .illFormed)
  return ⟨name, escaping, parts⟩

end DomainGen.Template
