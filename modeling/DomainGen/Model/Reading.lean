import DomainGen.Data.Text
import DomainGen.Model.Basic

/-!
# Models of documents

A document is a model if it is a mapping with a section of aggregates, and every aggregate, every
collection of one, and every entity in a collection is a mapping or nothing at all. Keys that are
not texts count by their text; of several with one text the last one counts, at the place of the
first.

`Model.ofDocument` reads the document in its order and stops at the first part that is of another
kind.
-/

namespace DomainGen

/-- The key of the section of aggregates. -/
def aggregatesKey : String := "aggregates"

/-- The keys of the collections of an aggregate. -/
def collectionKeys : List String := Kind.all.map Kind.collection

/-- The entries of a mapping; nothing at all counts as a mapping without entries. -/
def mappingOr (problem : (kindName : String) → ModelError) : Data → Except Failure Entries
  | .null => .ok []
  | .mapping es => .ok es
  | other => .error (.model (problem other.kindName))

/-- Puts an item into a list by its key: at the place of an item with the same key, or at the
    end. -/
def putByKey {α : Type} (key : α → String) (x : α) : List α → List α
  | [] => [x]
  | y :: rest => if key y == key x then x :: rest else y :: putByKey key x rest

/-- Is it the key of a collection? -/
def isCollectionKey : Data → Bool
  | .text s => collectionKeys.contains s
  | _ => false

/-- The entities of one collection. -/
def readEntities (kind : Kind) (owner : String) : Entries → List Entity →
    Except Failure (List Entity)
  | [], read => .ok read
  | (key, body) :: rest, read => do
    let name ← key.asText.mapError .fault
    let fields ← mappingOr (.itemNotMapping (.entity kind owner name)) body
    readEntities kind owner rest (putByKey Entity.name ⟨kind, name, owner, fields, none⟩ read)

/-- The declared collections of an aggregate, of the given kinds. -/
def readCollections (owner : String) (body : Entries) : List Kind →
    Except Failure (List (Kind × List Entity))
  | [] => .ok []
  | kind :: rest =>
    match body.get? kind.collection with
    | none => readCollections owner body rest
    | some section' => do
      let es ← mappingOr (.collectionNotMapping owner kind) section'
      let entities ← readEntities kind owner es []
      return (kind, entities) :: (← readCollections owner body rest)

/-- One aggregate. -/
def readAggregate (name : String) (body : Data) : Except Failure Aggregate := do
  let es ← mappingOr (.itemNotMapping (.aggregate name)) body
  let collections ← readCollections name es Kind.all
  return ⟨name, es.filter fun e => !isCollectionKey e.1, collections, none⟩

/-- The aggregates of a section. -/
def readAggregates : Entries → List Aggregate → Except Failure (List Aggregate)
  | [], read => .ok read
  | (key, body) :: rest, read => do
    let a ← readAggregate (← key.asText.mapError .fault) body
    readAggregates rest (putByKey Aggregate.name a read)

/-- The model of a document. -/
def Model.ofDocument (document : Data) (source : Option String) : Except Failure Model :=
  match document with
  | .mapping es =>
    match Entries.get? es aggregatesKey with
    | none => .error (.model .noAggregates)
    | some section' => do
      let raw ← mappingOr .aggregatesNotMapping section'
      let aggregates ← readAggregates raw []
      return ⟨aggregates, Entries.without es (.text aggregatesKey), source⟩
  | _ => .error (.model .notMapping)

end DomainGen
