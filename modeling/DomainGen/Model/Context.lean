import DomainGen.Model.Basic

/-!
# Template contexts

What a template is given of a model. The raw fields of an item come after its key and before its
names, so a field `name` wins over the key, while the names, the collections and the surrounding
context win over fields.
-/

namespace DomainGen

/-- A text, or null. -/
def Data.ofOption : Option String → Data
  | some s => .text s
  | none => .null

/-- The entries for the names of an item. -/
def namesContext (names : Option Names) : Entries :=
  [(.text "className", .ofOption (names.map Names.className)),
    (.text "fileName", .ofOption (names.map Names.fileName))]

namespace Entity

/-- What templates are given of an entity. -/
def summary (e : Entity) : Entries :=
  (Entries.ofFields [("name", .text e.name), ("kind", .text e.kind.text)]
    |>.update e.fields).update (namesContext e.names)

end Entity

namespace Aggregate

/-- The summaries of some entities by their keys. -/
def entitySummaries (es : List Entity) : Entries :=
  es.map fun e => (.text e.name, .mapping e.summary)

/-- What templates are given of an aggregate. -/
def summary (a : Aggregate) : Entries :=
  let own := (Entries.ofFields [("name", .text a.name)]
    |>.update a.fields).update (namesContext a.names)
  own.update (a.collections.map fun (kind, es) =>
    (.text kind.collection, .mapping (entitySummaries es)))

end Aggregate

namespace Model

/-- The context of the whole model. -/
def context (m : Model) : Entries :=
  m.extra.set "aggregates"
    (.mapping (m.aggregates.map fun a => (.text a.name, .mapping a.summary)))

/-- The context of an aggregate, given that of its model. -/
def aggregateContext (a : Aggregate) (modelContext : Data) : Entries :=
  a.summary.set "model" modelContext

/-- The context of an entity, given that of its aggregate. -/
def entityContext (e : Entity) (aggregateContext : Data) : Entries :=
  e.summary.set "aggregate" aggregateContext

/-- The context of an aggregate of the model. -/
def contextOf (m : Model) (a : Aggregate) : Entries :=
  aggregateContext a (.mapping m.context)

/-- The context of an entity whose aggregate is in the model. -/
def contextOfEntity (m : Model) (e : Entity) : Except ModelError Entries := do
  let owner ← m.ownerOf e
  return entityContext e (.mapping (m.contextOf owner))

end Model

end DomainGen
