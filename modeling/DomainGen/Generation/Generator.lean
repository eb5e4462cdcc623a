import DomainGen.Config.Warnings
import DomainGen.Model.Context
import DomainGen.Template.Engine

/-!
# Generators

A generator knows how the items of a model are named and which template each kind of file has. It is
a configuration whose naming policies are complete.

* `Generator.ofConfig` : from a configuration;
* `Generator.kindPaths` : the ways from the folder of the aggregates to those of the kinds;
* `Generator.nameModel` : the names of all items of a model;
* `Generator.requiredTemplates` : the templates a generator renders.
-/

namespace DomainGen

/-- How a template is rendered, by its name, in a context. What renders may keep a state, such as
    the templates it has read. -/
abbrev Renderer (ρ : Type) := ρ → Data → Entries → ρ × Except Failure String

/-- Rendering with a template engine over some files. -/
def engineRenderer (tree : FileTree) : Renderer Engine :=
  fun e name context => e.render tree name context

/-- A generator. -/
structure Generator where
  /-- The configuration. -/
  config : Config
  /-- The folder relative paths start from. -/
  workingFolder : List String
  /-- The policy of aggregates. -/
  aggregate : NamingPolicy
  /-- The policy of commands. -/
  command : NamingPolicy
  /-- The policy of events. -/
  event : NamingPolicy
  /-- The policy of faults. -/
  fault : NamingPolicy
  deriving Repr, Inhabited

namespace Generator

/-- The generator of a configuration. -/
def ofConfig (workingFolder : List String) (c : Config) : Except Failure Generator := do
  let aggregate ← c.policyFor none
  let command ← c.policyFor (some .command)
  let event ← c.policyFor (some .event)
  let fault ← c.policyFor (some .fault)
  return ⟨c, workingFolder, aggregate, command, event, fault⟩

/-- The policy of a kind. -/
def policyOf (g : Generator) : Kind → NamingPolicy
  | .command => g.command
  | .event => g.event
  | .fault => g.fault

/-- The way from the folder of the aggregates to that of a kind. -/
def kindPath (g : Generator) (kind : Kind) : String :=
  relativeFolder g.workingFolder g.aggregate.folder (g.policyOf kind).folder

/-- The ways from the folder of the aggregates to those of the kinds, by kind. -/
def kindPaths (g : Generator) : Entries :=
  Entries.ofFields (Kind.all.map fun k => (k.text, .text (g.kindPath k)))

/-- The templates the generator renders, by role. -/
def requiredTemplates (g : Generator) : Except Failure (List Data) :=
  templateRoles.mapM g.config.templateFor

/-! ## Names -/

/-- The names of an aggregate with a key. -/
def aggregateNames (g : Generator) (name : String) : Names :=
  ⟨g.aggregate.publishedName name none, g.aggregate.fileName name none⟩

/-- The names of an entity with a key, of an aggregate with a key. -/
def entityNames (g : Generator) (kind : Kind) (owner name : String) : Names :=
  ⟨(g.policyOf kind).publishedName name (some owner), (g.policyOf kind).fileName name (some owner)⟩

/-- Names some items in order, up to the first that has names already. -/
def nameUpTo {α : Type} (nameOne : α → α × Option ModelError) : List α →
    List α × Option ModelError
  | [] => ([], none)
  | x :: rest => match nameOne x with
    | (x, some e) => (x :: rest, some e)
    | (x, none) =>
      let (rest, e) := nameUpTo nameOne rest
      (x :: rest, e)

/-- Names an entity, unless it has names already. -/
def nameEntity (g : Generator) (owner : String) (e : Entity) : Entity × Option ModelError :=
  match e.assignNames (g.entityNames e.kind owner e.name) with
  | .ok e => (e, none)
  | .error problem => (e, some problem)

/-- Names the entities of a collection. -/
def nameCollection (g : Generator) (owner : String) (c : Kind × List Entity) :
    (Kind × List Entity) × Option ModelError :=
  let (es, e) := nameUpTo (g.nameEntity owner) c.2
  ((c.1, es), e)

/-- Names an aggregate and then its entities. -/
def nameAggregate (g : Generator) (a : Aggregate) : Aggregate × Option ModelError :=
  match a.assignNames (g.aggregateNames a.name) with
  | .error problem => (a, some problem)
  | .ok a =>
    let (collections, e) := nameUpTo (g.nameCollection a.name) a.collections
    ({ a with collections }, e)

/-- The model with the names of all its items, as far as they can be given. -/
def nameModel (g : Generator) (m : Model) : Model × Option ModelError :=
  let (aggregates, e) := nameUpTo g.nameAggregate m.aggregates
  ({ m with aggregates }, e)

end Generator

end DomainGen
