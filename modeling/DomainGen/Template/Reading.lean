import DomainGen.Template.Syntax
import DomainGen.Template.Token

/-!
# Reading templates

From the segments of a template to its parts. Reading fails at the first defect.

* `Expr.ofTokens` : an expression from the tokens of a tag;
* `readSource` : the parts of a source.

Brackets and statements nest only so deep: `Pending.room` is what is left of the depth, and each
bracket and statement takes its share. `fuel` bounds the steps of reading an expression; a token
takes fewer than sixteen.
-/

namespace DomainGen.Template

/-! ## 1. Tokens -/

/-- The tokens still to be read. -/
structure Pending where
  /-- The tokens. -/
  tokens : List Token
  /-- How much deeper parts may nest. -/
  room : Nat

/-- A reading of tokens. -/
abbrev Reading (α : Type) := StateT Pending (Except Defect) α

namespace Reading

/-- The reading of what has no form. -/
def fail {α : Type} : Reading α := throw .form

/-- What comes next, if the tag goes on. -/
def next? : Reading (Option Lexeme) := do
  match (← get).tokens with
  | ⟨.broken d, _⟩ :: _ => throw d
  | t :: _ => return some t.lexeme
  | [] => return none

/-- What comes after that. -/
def second? : Reading (Option Lexeme) := do
  match (← get).tokens with
  | _ :: ⟨.broken d, _⟩ :: _ => throw d
  | _ :: t :: _ => return some t.lexeme
  | _ => return none

/-- Leaves out the next token. -/
def skip : Reading Unit :=
  modify fun s => { s with tokens := s.tokens.tail }

/-- Takes the next token. -/
def take : Reading Lexeme := do
  match ← next? with
  | some x =>
    skip
    return x
  | none => fail

/-- The line of the next token. -/
def lineHere : Reading Nat := do
  return (((← get).tokens.head?).map Token.line).getD 0

/-- Does a given operator come next? -/
def nextIsSign (s : String) : Reading Bool := do
  match ← next? with
  | some (.sign r) => return r == s
  | _ => return false

/-- Does a given word come next? -/
def nextIsWord (s : String) : Reading Bool := do
  match ← next? with
  | some (.name r) => return r == s
  | _ => return false

/-- Takes the next token if it is a given operator. -/
def takeSign (s : String) : Reading Bool := do
  let is ← nextIsSign s
  if is then skip
  return is

/-- Takes the next token if it is a given word. -/
def takeWord (s : String) : Reading Bool := do
  let is ← nextIsWord s
  if is then skip
  return is

/-- Takes an operator that must come next. -/
def expect (s : String) : Reading Unit := do
  if !(← takeSign s) then fail

/-- Takes a name that must come next. -/
def expectName : Reading String := do
  match ← take with
  | .name n => return n
  | _ => fail

/-- A reading that goes deeper by a number of steps. -/
def nested {α : Type} (steps : Nat) (r : Reading α) : Reading α := do
  let room := (← get).room
  if room < steps then throw (.fault .tooNested)
  modify fun s => { s with room := room - steps }
  let x ← r
  modify fun s => { s with room }
  return x

/-- A name with points in it, of which the first part was read. -/
def dottedName (first : String) : (fuel : Nat) → Reading String
  | 0 => fail
  | fuel + 1 => do
    if ← takeSign "." then dottedName (first ++ "." ++ (← expectName)) fuel
    else return first

/-- The comparison a sign stands for. -/
def comparisonOf? (sign : String) : Option Comparison :=
  match sign with
  | "==" => some .equal
  | "!=" => some .notEqual
  | "<" => some .less
  | "<=" => some .lessOrEqual
  | ">" => some .greater
  | ">=" => some .greaterOrEqual
  | _ => none

/-- The comparison that comes next. -/
def comparison? : Reading (Option Comparison) := do
  match ← next? with
  | some (.sign s) => match comparisonOf? s with
    | some c =>
      skip
      return some c
    | none => return none
  | some (.name "in") =>
    skip
    return some .isIn
  | some (.name "not") => match ← second? with
    | some (.name "in") =>
      skip
      skip
      return some .isNotIn
    | _ => return none
  | _ => return none

/-- What a word in an expression stands for. -/
def wordExpr (n : String) : Expr :=
  match n with
  | "true" => .literal (.ofBool true)
  | "True" => .literal (.ofBool true)
  | "false" => .literal (.ofBool false)
  | "False" => .literal (.ofBool false)
  | "none" => .literal .null
  | "None" => .literal .null
  | n => .name n

/-- Texts that follow one another are one text. -/
def moreText (s : String) : (fuel : Nat) → Reading String
  | 0 => fail
  | fuel + 1 => do
    match ← next? with
    | some (.text t) =>
      skip
      moreText (s ++ t) fuel
    | _ => return s

/-- Can an argument without parentheses of a question begin here? -/
def argumentBegins : Reading Bool := do
  match ← next? with
  | some (.name n) => return !(["else", "or", "and"].contains n)
  | some (.text _) => return true
  | some (.int _) => return true
  | some (.float _) => return true
  | some (.sign s) => return ["(", "[", "\x7b"].contains s
  | _ => return false

/-- Is the argument that begins here a named one? -/
def namedArgument? : Reading (Option String) := do
  match ← next? with
  | some (.name n) => match ← second? with
    | some (.sign "=") =>
      skip
      skip
      return some n
    | _ => return none
  | _ => return none

/-- Is this the end of expressions separated by commas? -/
def atTupleEnd : Reading Bool := do
  match ← next? with
  | none => return true
  | some (.sign s) => return s == ")"
  | some _ => return false

/-- Is this the end of what stands in brackets for one item? -/
def atStretchEnd : Reading Bool := do
  match ← next? with
  | some (.sign s) => return s == "]" || s == ","
  | _ => return false

/-! ## 2. Expressions -/

/-- The steps from a list or a mapping to what is in it. -/
def listSteps : Nat := 13

/-- The steps from other brackets to what is in them. -/
def bracketSteps : Nat := 14

mutual

/-- An expression. `withChoice` says if it may be a choice. -/
def expr (withChoice : Bool) : (fuel : Nat) → Reading Expr
  | 0 => fail
  | fuel + 1 => do
    let line ← lineHere
    let e ← disjunction fuel
    if withChoice then choices e line fuel else return e

/-- The conditions after an expression that began in a line. -/
def choices (e : Expr) (line : Nat) : (fuel : Nat) → Reading Expr
  | 0 => fail
  | fuel + 1 => do
    if ← takeWord "if" then
      let condition ← disjunction fuel
      if ← takeWord "else" then
        let other ← nested 1 (expr true fuel)
        choices (.choice e condition (some other) line) (← lineHere) fuel
      else choices (.choice e condition none line) (← lineHere) fuel
    else return e

/-- Expressions joined by `or`. -/
def disjunction : (fuel : Nat) → Reading Expr
  | 0 => fail
  | fuel + 1 => do disjunctionRest (← conjunction fuel) fuel

/-- What follows the first of some expressions joined by `or`. -/
def disjunctionRest (left : Expr) : (fuel : Nat) → Reading Expr
  | 0 => fail
  | fuel + 1 => do
    if ← takeWord "or" then disjunctionRest (.disjunction left (← conjunction fuel)) fuel
    else return left

/-- Expressions joined by `and`. -/
def conjunction : (fuel : Nat) → Reading Expr
  | 0 => fail
  | fuel + 1 => do conjunctionRest (← negation fuel) fuel

/-- What follows the first of some expressions joined by `and`. -/
def conjunctionRest (left : Expr) : (fuel : Nat) → Reading Expr
  | 0 => fail
  | fuel + 1 => do
    if ← takeWord "and" then conjunctionRest (.conjunction left (← negation fuel)) fuel
    else return left

/-- An expression that may begin with `not`. -/
def negation : (fuel : Nat) → Reading Expr
  | 0 => fail
  | fuel + 1 => do
    if ← takeWord "not" then return .negation (← nested 1 (negation fuel))
    else
      let first ← sum fuel
      match ← comparisons fuel with
      | [] => return first
      | rest => return .compare first rest

/-- The comparisons after an expression. -/
def comparisons : (fuel : Nat) → Reading (List (Comparison × Expr))
  | 0 => fail
  | fuel + 1 => do
    match ← comparison? with
    | some c =>
      let e ← sum fuel
      return (c, e) :: (← comparisons fuel)
    | none => return []

/-- Sums and differences. -/
def sum : (fuel : Nat) → Reading Expr
  | 0 => fail
  | fuel + 1 => do sumRest (← concatenation fuel) fuel

/-- What follows the first part of a sum. -/
def sumRest (left : Expr) : (fuel : Nat) → Reading Expr
  | 0 => fail
  | fuel + 1 => do
    if ← takeSign "+" then sumRest (.binary .add left (← concatenation fuel)) fuel
    else if ← takeSign "-" then sumRest (.binary .sub left (← concatenation fuel)) fuel
    else return left

/-- Expressions joined by tildes. -/
def concatenation : (fuel : Nat) → Reading Expr
  | 0 => fail
  | fuel + 1 => do
    let first ← unary true fuel
    match ← concatenationRest fuel with
    | [] => return first
    | rest => return .concatenation (first :: rest)

/-- What follows the first of some expressions joined by tildes. -/
def concatenationRest : (fuel : Nat) → Reading (List Expr)
  | 0 => fail
  | fuel + 1 => do
    if ← takeSign "~" then
      let e ← unary true fuel
      return e :: (← concatenationRest fuel)
    else return []

/-- An expression that may begin with a sign. Filters belong to the expression without its sign
    only when there is none. -/
def unary (withFilter : Bool) : (fuel : Nat) → Reading Expr
  | 0 => fail
  | fuel + 1 => do
    let e ←
      if ← takeSign "-" then pure (.minus (← nested 1 (unary false fuel)))
      else if ← takeSign "+" then pure (.plus (← nested 1 (unary false fuel)))
      else
        let e ← primary fuel
        members e fuel
    if withFilter then filters e fuel else return e

/-- A word, a literal, or an expression in brackets. -/
def primary : (fuel : Nat) → Reading Expr
  | 0 => fail
  | fuel + 1 => do
    match ← take with
    | .name n => return wordExpr n
    | .text s => return .literal (.ofText (← moreText s fuel))
    | .int n => return .literal (.ofInt n)
    | .float x => return .literal (.plain (.float x))
    | .sign "(" =>
      let e ← nested bracketSteps (tuple true false true fuel)
      expect ")"
      return e
    | .sign "[" => return .list (← nested listSteps (listItems true fuel))
    | .sign "\x7b" => return .mapping (← nested listSteps (mappingEntries true fuel))
    | _ => fail

/-- Expressions separated by commas: one of them alone, or a tuple. Empty only between
    parentheses. -/
def tuple (withChoice simple inParentheses : Bool) : (fuel : Nat) → Reading Expr
  | 0 => fail
  | fuel + 1 => do
    match ← tupleItems withChoice simple fuel with
    | ([e], false) => return e
    | ([], false) => if inParentheses then return .tuple [] else fail
    | (items, _) => return .tuple items

/-- The expressions of a tuple, and whether a comma makes it one. `simple` ones have no operators,
    members or filters. -/
def tupleItems (withChoice simple : Bool) : (fuel : Nat) → Reading (List Expr × Bool)
  | 0 => fail
  | fuel + 1 => do
    if ← atTupleEnd then return ([], false)
    else
      let e ← if simple then primary fuel else expr withChoice fuel
      if ← takeSign "," then
        let (rest, _) ← tupleItems withChoice simple fuel
        return (e :: rest, true)
      else return ([e], false)

/-- The items of a list up to its closing bracket. -/
def listItems (first : Bool) : (fuel : Nat) → Reading (List Expr)
  | 0 => fail
  | fuel + 1 => do
    if ← takeSign "]" then return []
    else
      if !first then expect ","
      if ← takeSign "]" then return []
      else
        let e ← expr true fuel
        return e :: (← listItems false fuel)

/-- The entries of a mapping up to its closing brace. -/
def mappingEntries (first : Bool) : (fuel : Nat) → Reading (List (Expr × Expr))
  | 0 => fail
  | fuel + 1 => do
    if ← takeSign "\x7d" then return []
    else
      if !first then expect ","
      if ← takeSign "\x7d" then return []
      else
        let k ← expr true fuel
        expect ":"
        let v ← expr true fuel
        return (k, v) :: (← mappingEntries false fuel)

/-- What stands between brackets after an expression, up to the closing one. -/
def keys (first : Bool) : (fuel : Nat) → Reading (List Expr)
  | 0 => fail
  | fuel + 1 => do
    if ← takeSign "]" then return []
    else
      if !first then expect ","
      let e ← key fuel
      return e :: (← keys false fuel)

/-- A key or a stretch of places. -/
def key : (fuel : Nat) → Reading Expr
  | 0 => fail
  | fuel + 1 => do
    if ← takeSign ":" then stretch none fuel
    else
      let e ← expr true fuel
      if ← takeSign ":" then stretch (some e) fuel else return e

/-- A stretch of places, after its first colon. -/
def stretch (start : Option Expr) : (fuel : Nat) → Reading Expr
  | 0 => fail
  | fuel + 1 => do
    let stop ←
      if (← nextIsSign ":") || (← atStretchEnd) then pure none
      else some <$> expr true fuel
    if ← takeSign ":" then
      let step ← if ← atStretchEnd then pure none else some <$> expr true fuel
      return .stretch start stop step
    else return .stretch start stop none

/-- Members, items and calls after an expression. -/
def members (e : Expr) : (fuel : Nat) → Reading Expr
  | 0 => fail
  | fuel + 1 => do
    if ← takeSign "." then
      match ← take with
      | .name n => members (.member e n) fuel
      | .int n => members (.item e (.literal (.ofInt n))) fuel
      | _ => fail
    else if ← takeSign "[" then
      match ← nested bracketSteps (keys true fuel) with
      | [k] => members (.item e k) fuel
      | ks => members (.item e (.tuple ks)) fuel
    else if ← takeSign "(" then
      let (args, named) ← nested bracketSteps (arguments true fuel)
      members (.call e args named) fuel
    else return e

/-- Filters, questions and calls after an expression. -/
def filters (e : Expr) : (fuel : Nat) → Reading Expr
  | 0 => fail
  | fuel + 1 => do
    if ← takeSign "|" then
      let name ← dottedName (← expectName) fuel
      if ← takeSign "(" then
        let (args, named) ← nested bracketSteps (arguments true fuel)
        filters (.filter name e args named) fuel
      else filters (.filter name e [] []) fuel
    else if ← takeWord "is" then
      let negated ← takeWord "not"
      let name ← dottedName (← expectName) fuel
      let (args, named) ←
        if ← takeSign "(" then nested bracketSteps (arguments true fuel)
        else if ← argumentBegins then
          if ← nextIsWord "is" then fail
          else
            let a ← primary fuel
            pure ([← members a fuel], [])
        else pure ([], [])
      let question := Expr.test name e args named
      filters (if negated then .negation question else question) fuel
    else if ← takeSign "(" then
      let (args, named) ← nested bracketSteps (arguments true fuel)
      filters (.call e args named) fuel
    else return e

/-- Arguments up to the closing parenthesis; those with names come last. -/
def arguments (first : Bool) : (fuel : Nat) → Reading (List Expr × List (String × Expr))
  | 0 => fail
  | fuel + 1 => do
    if ← takeSign ")" then return ([], [])
    else
      if !first then expect ","
      if !first && (← takeSign ")") then return ([], [])
      else match ← namedArgument? with
        | some n =>
          let e ← expr true fuel
          let (args, named) ← arguments false fuel
          if args.isEmpty then return ([], (n, e) :: named) else fail
        | none =>
          let e ← expr true fuel
          let (args, named) ← arguments false fuel
          return (e :: args, named)

end

/-- The fuel for some tokens. -/
def fuelFor (ts : List Token) : Nat := 16 * ts.length + 32

/-- A reading that must take all tokens of a tag. -/
def all {α : Type} (room : Nat) (r : (fuel : Nat) → Reading α) (ts : List Token) :
    Except Defect α := do
  let whole : Reading α := do
    let x ← r (fuelFor ts)
    match ← next? with
    | none => return x
    | some _ => fail
  return (← whole.run ⟨ts, room⟩).1

/-- A reading with a colon after it that may be missing. -/
def withColon {α : Type} (r : (fuel : Nat) → Reading α) (fuel : Nat) : Reading α := do
  let x ← r fuel
  discard (takeSign ":")
  return x

/-- The reading of nothing. -/
def nothing (_fuel : Nat) : Reading Unit := pure ()

end Reading

/-! ## 3. Statements -/

/-- The expression that some tokens make up. -/
def Expr.ofTokens (room : Nat) (ts : List Token) : Except Defect Expr :=
  Reading.all room (Reading.tuple true false false) ts

mutual

/-- The target an expression denotes: a name that is no literal, or a tuple of targets. -/
def targetOf? : Expr → Option Target
  | .name n => some (.name n)
  | .tuple items => (targetsOf? items).map .parts
  | _ => none

/-- The targets some expressions denote. -/
def targetsOf? : List Expr → Option (List Target)
  | [] => some []
  | e :: rest => do
    let t ← targetOf? e
    let ts ← targetsOf? rest
    some (t :: ts)

end

/-- The head of a loop. -/
structure LoopHead where
  /-- What the items are bound to. -/
  target : Target
  /-- What is gone through. -/
  through : Expr
  /-- The condition on items. -/
  only : Option Expr
  /-- Has the loop a place of its own? -/
  again : Bool

/-- The head of a loop, after its first word. -/
def Reading.loopHead (fuel : Nat) : Reading LoopHead := do
  let some target := targetOf? (← Reading.tuple true true false fuel) | Reading.fail
  if !(← Reading.takeWord "in") then Reading.fail
  let through ← Reading.tuple false false false fuel
  let only ← if ← Reading.takeWord "if" then some <$> Reading.expr true fuel else pure none
  let again ← Reading.takeWord "recursive"
  return ⟨target, through, only, again⟩

/-- What ends a list of parts: the word of the statement and the tokens after it. -/
abbrev Ending := String × List Token

/-- What is left of the depth to which parts may nest. -/
structure Depth where
  /-- The steps that are left. -/
  room : Nat

/-- The steps from a statement to those in it. -/
def statementSteps : Nat := 4

/-- The depth in a statement. -/
def Depth.inner (d : Depth) : Except Defect Depth :=
  if d.room < statementSteps then throw (.fault .tooNested)
  else return ⟨d.room - statementSteps⟩

mutual

/-- Parts up to one of some statements or, if none are given, up to the end. -/
def readParts (stops : List String) (depth : Depth) : (fuel : Nat) → List Segment →
    Except Defect (List Part × Ending × List Segment)
  | 0, _ => throw .form
  | fuel + 1, segments =>
    match segments with
    | [] => if stops.isEmpty then return ([], ("", []), []) else throw .form
    | .broken d :: _ => throw d
    | .text s :: rest => do
      let (ps, e, r) ← readParts stops depth fuel rest
      return (.text s :: ps, e, r)
    | .output ts :: rest => do
      let x ← Expr.ofTokens depth.room ts
      let (ps, e, r) ← readParts stops depth fuel rest
      return (.output x :: ps, e, r)
    | .statement ts :: rest =>
      match ts with
      | ⟨.name word, _⟩ :: tail =>
        if stops.contains word then return ([], (word, tail), rest)
        else do
          let (p, r) ← readStatement word tail depth fuel rest
          let (ps, e, r) ← readParts stops depth fuel r
          return (p :: ps, e, r)
      | ⟨.broken d, _⟩ :: _ => throw d
      | _ => throw .form

/-- One statement, from the tokens after its word. -/
def readStatement (word : String) (tail : List Token) (depth : Depth) : (fuel : Nat) →
    List Segment → Except Defect (Part × List Segment)
  | 0, _ => throw .form
  | fuel + 1, segments => do
    let depth ← depth.inner
    match word with
    | "if" => do
      let (branches, otherwise, r) ← readBranches tail depth fuel segments
      return (.choice branches otherwise, r)
    | "for" => do
      let head ← Reading.all depth.room (Reading.withColon Reading.loopHead) tail
      let (body, (word, after), r) ← readParts ["endfor", "else"] depth fuel segments
      let loop := Part.loop head.target head.through head.only head.again body
      if word == "else" then do
        let (otherwise, r) ← readOtherwise "endfor" after depth fuel r
        return (loop otherwise, r)
      else do
        Reading.all depth.room Reading.nothing after
        return (loop [], r)
    | _ => throw .form

/-- The branches of a choice, from the tokens of the first condition. -/
def readBranches (condition : List Token) (depth : Depth) : (fuel : Nat) → List Segment →
    Except Defect (List (Expr × List Part) × List Part × List Segment)
  | 0, _ => throw .form
  | fuel + 1, segments => do
    let test ← Reading.all depth.room (Reading.withColon (Reading.tuple false false false)) condition
    let (body, (word, after), r) ← readParts ["elif", "else", "endif"] depth fuel segments
    if word == "elif" then do
      let (branches, otherwise, r) ← readBranches after depth fuel r
      return ((test, body) :: branches, otherwise, r)
    else if word == "else" then do
      let (otherwise, r) ← readOtherwise "endif" after depth fuel r
      return ([(test, body)], otherwise, r)
    else do
      Reading.all depth.room Reading.nothing after
      return ([(test, body)], [], r)

/-- The parts after an `else` up to the statement that ends all, from the tokens after the word. -/
def readOtherwise (stop : String) (tail : List Token) (depth : Depth) : (fuel : Nat) →
    List Segment → Except Defect (List Part × List Segment)
  | 0, _ => throw .form
  | fuel + 1, segments => do
    Reading.all depth.room (Reading.withColon Reading.nothing) tail
    let (otherwise, (_, after), r) ← readParts [stop] depth fuel segments
    Reading.all depth.room Reading.nothing after
    return (otherwise, r)

end

/-! ## 4. Sources -/

/-- The depth to which parts may nest. -/
def maxDepth : Nat := 950

/-- The parts of a source. -/
def readSource (source : String) : Except Defect (List Part) := do
  let segments := segments source
  return (← readParts [] ⟨maxDepth⟩ (2 * segments.length + 2) segments).1

end DomainGen.Template
