import DomainGen.Template.Value

/-!
# The template language

A template is a list of parts: text, the value of an expression, a choice, a loop. Expressions name
the values of a context, look into them, and pass them through filters.
-/

namespace DomainGen.Template

/-- An operator between two values. -/
inductive BinaryOp where
  | add
  | sub
  deriving DecidableEq, Repr, Inhabited

/-- A comparison. -/
inductive Comparison where
  | equal
  | notEqual
  | less
  | lessOrEqual
  | greater
  | greaterOrEqual
  | isIn
  | isNotIn
  deriving DecidableEq, Repr, Inhabited

/-- An expression. -/
inductive Expr where
  | literal (x : Value)
  | name (n : String)
  /-- A member of a value, as after a dot. -/
  | member (e : Expr) (name : String)
  /-- An item of a value, as in brackets. -/
  | item (e key : Expr)
  /-- What stands in brackets for several items: the bounds and the step between places. -/
  | stretch (start stop step : Option Expr)
  | call (e : Expr) (args : List Expr) (named : List (String × Expr))
  | filter (name : String) (e : Expr) (args : List Expr) (named : List (String × Expr))
  /-- A question about a value, as after `is`. -/
  | test (name : String) (e : Expr) (args : List Expr) (named : List (String × Expr))
  | negation (e : Expr)
  | minus (e : Expr)
  | plus (e : Expr)
  | conjunction (a b : Expr)
  | disjunction (a b : Expr)
  /-- A chain of comparisons. -/
  | compare (first : Expr) (rest : List (Comparison × Expr))
  | binary (op : BinaryOp) (a b : Expr)
  /-- The texts of several values in a row. -/
  | concatenation (parts : List Expr)
  /-- The first expression if the condition holds, else the second one, if there is one. -/
  | choice (value condition : Expr) (otherwise : Option Expr) (line : Nat)
  | list (items : List Expr)
  | tuple (items : List Expr)
  | mapping (entries : List (Expr × Expr))
  deriving Repr, Inhabited

/-- What the items of a loop are bound to: a name, or a target for each part of an item. -/
inductive Target where
  | name (n : String)
  | parts (ts : List Target)
  deriving Repr, Inhabited

/-- A part of a template. -/
inductive Part where
  | text (s : String)
  | output (e : Expr)
  /-- The parts of the first condition that holds, or others if none does. -/
  | choice (branches : List (Expr × List Part)) (otherwise : List Part)
  /-- The body for each item that passes the condition, or other parts if there is none. A loop
      that is `again` has a place of its own in the nesting of loops. -/
  | loop (target : Target) (through : Expr) (only : Option Expr) (again : Bool)
      (body otherwise : List Part)
  deriving Repr, Inhabited

end DomainGen.Template

namespace DomainGen

/-- A template. -/
structure Template where
  /-- Its name, if it has one. -/
  name : Option String
  /-- Is markup escaped in its output? -/
  escaping : Bool
  /-- Its parts. -/
  parts : List Template.Part
  deriving Repr, Inhabited

end DomainGen
