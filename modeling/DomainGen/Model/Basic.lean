import DomainGen.Data.Entries
import DomainGen.Failure

/-!
# Models

A domain model: aggregates, each with its own fields and its commands, events and faults.

* `Entity`, `Aggregate`, `Model` : the parts. What has a key occurs once per key, in document order;
* `Names` : what an item is called in the generated code. It gets them once (`assignNames`);
* `Model.aggregate`, `Model.ownerOf`, `Model.count` : looking.
-/

namespace DomainGen

/-! ## 1. Types -/

/-- The names of an item in the generated code. -/
structure Names where
  /-- The name of its class. -/
  className : String
  /-- The name of its file. -/
  fileName : String
  deriving DecidableEq, Repr, Inhabited

/-- A command, event or fault of an aggregate. -/
structure Entity where
  /-- What it is. -/
  kind : Kind
  /-- Its key. -/
  name : String
  /-- The key of its aggregate. -/
  owner : String
  /-- Its fields. -/
  fields : Entries
  /-- Its names, once it has them. -/
  names : Option Names
  deriving Repr, Inhabited

/-- An aggregate. -/
structure Aggregate where
  /-- Its key. -/
  name : String
  /-- Its fields other than the collections. -/
  fields : Entries
  /-- The declared collections, each kind at most once. -/
  collections : List (Kind × List Entity)
  /-- Its names, once it has them. -/
  names : Option Names
  deriving Repr, Inhabited

/-- A model. -/
structure Model where
  /-- The aggregates. -/
  aggregates : List Aggregate
  /-- The other entries of the document. -/
  extra : Entries
  /-- Where the document comes from. -/
  source : Option String
  deriving Repr, Inhabited

/-! ## 2. Names -/

/-- The names of an item that has none yet. -/
def assignOnce (item : Item) (old : Option Names) (new : Names) : Except ModelError Names :=
  match old with
  | some _ => .error (.alreadyNamed item)
  | none => .ok new

namespace Entity

/-- What the entity is called in messages. -/
def item (e : Entity) : Item := .entity e.kind e.owner e.name

/-- The entity with its names. -/
def assignNames (e : Entity) (names : Names) : Except ModelError Entity := do
  let names ← assignOnce e.item e.names names
  return { e with names := some names }

end Entity

namespace Aggregate

/-- What the aggregate is called in messages. -/
def item (a : Aggregate) : Item := .aggregate a.name

/-- The aggregate with its names. -/
def assignNames (a : Aggregate) (names : Names) : Except ModelError Aggregate := do
  let names ← assignOnce a.item a.names names
  return { a with names := some names }

/-! ## 3. Entities of an aggregate -/

/-- The entities of one kind. -/
def entitiesOf (a : Aggregate) (kind : Kind) : List Entity :=
  (a.collections.lookup kind).getD []

/-- All entities: commands, then events, then faults. -/
def entities (a : Aggregate) : List Entity :=
  Kind.all.flatMap a.entitiesOf

/-- The entity of a kind with a key. -/
def entity? (a : Aggregate) (kind : Kind) (name : String) : Option Entity :=
  (a.entitiesOf kind).find? (·.name == name)

/-- The aggregate with one of its entities replaced by one with the same kind and key. -/
def replaceEntity (a : Aggregate) (e : Entity) : Aggregate :=
  { a with collections := a.collections.map fun (kind, es) =>
      (kind, if kind == e.kind then es.map fun old => if old.name == e.name then e else old
        else es) }

end Aggregate

/-! ## 4. Models -/

namespace Model

/-- The aggregate with a key. -/
def aggregate (m : Model) (name : String) : Except ModelError Aggregate :=
  match m.aggregates.find? (·.name == name) with
  | some a => .ok a
  | none => .error (.unknownAggregate name)

/-- The aggregate an entity belongs to. -/
def ownerOf (m : Model) (e : Entity) : Except ModelError Aggregate :=
  m.aggregate e.owner

/-- How many entities there are, of one kind or of all. -/
def count (m : Model) (kind : Option Kind) : Nat :=
  (m.aggregates.flatMap fun a => match kind with
    | some k => a.entitiesOf k
    | none => a.entities).length

/-- The model with one of its aggregates replaced by one with the same key. -/
def replaceAggregate (m : Model) (a : Aggregate) : Model :=
  { m with aggregates := m.aggregates.map fun old => if old.name == a.name then a else old }

end Model

end DomainGen
