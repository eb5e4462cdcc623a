import DomainGen.Proofs.Model.Grammar

/-!
# Models as they are read

A model that was just read from a document has no names yet, every entity knows its kind and its
aggregate, and what has a key occurs once per key.

* `Model.Fresh` : these facts, for a whole model;
* `fresh_ofDocument` : **every document that is a model gives a fresh one**;
* `fields_ofDocument`, `extra_ofDocument` : what is read as a collection or as an aggregate is not
  among the other fields.
-/

namespace DomainGen

/-! ## 1. Fresh items -/

/-- An entity as it is read from a collection of an aggregate. -/
structure Entity.Fresh (kind : Kind) (owner : String) (e : Entity) : Prop where
  kind_eq : e.kind = kind
  owner_eq : e.owner = owner
  unnamed : e.names = none

/-- An aggregate as it is read: its collections stand in the order of the kinds. -/
structure Aggregate.Fresh (a : Aggregate) : Prop where
  unnamed : a.names = none
  kinds : (a.collections.map (·.1)).Sublist Kind.all
  entities : ∀ c ∈ a.collections, ∀ e ∈ c.2, e.Fresh c.1 a.name
  keys : ∀ c ∈ a.collections, (c.2.map (·.name)).Nodup

/-- A model as it is read. -/
structure Model.Fresh (m : Model) : Prop where
  aggregates : ∀ a ∈ m.aggregates, a.Fresh
  keys : (m.aggregates.map (·.name)).Nodup

/-! ## 2. What is read is fresh -/

theorem fresh_entityOf (kind : Kind) (owner : String) (e : Data × Data) :
    (entityOf kind owner e).Fresh kind owner := ⟨rfl, rfl, rfl⟩

/-- The collections of an aggregate are those of some kinds, in the order of the kinds. -/
theorem kinds_collectionsIn (owner : String) (body : Entries) (kinds : List Kind) :
    ((collectionsIn owner body kinds).map (·.1)).Sublist kinds := by
  unfold collectionsIn
  induction kinds with
  | nil => exact List.Sublist.refl []
  | cons kind rest ih =>
      rw [List.filterMap_cons]
      cases Entries.get? body kind.collection with
      | none => exact ih.cons kind
      | some x => exact ih.cons_cons kind

theorem fresh_aggregateOf (e : Data × Data) : (aggregateOf e).Fresh where
  unnamed := rfl
  kinds := kinds_collectionsIn _ _ Kind.all
  entities c hc := by
    obtain ⟨kind, -, hkind⟩ := List.mem_filterMap.mp hc
    obtain ⟨x, -, rfl⟩ := Option.map_eq_some_iff.mp hkind
    intro entity hentity
    obtain ⟨y, -, rfl⟩ := mem_collected_map.mp hentity
    exact fresh_entityOf kind _ y
  keys c hc := by
    obtain ⟨kind, -, hkind⟩ := List.mem_filterMap.mp hc
    obtain ⟨x, -, rfl⟩ := Option.map_eq_some_iff.mp hkind
    exact nodup_collected Entity.name _

theorem fresh_model (document : Data) (source : Option String) : (document.model source).Fresh where
  aggregates a ha := by
    obtain ⟨e, -, rfl⟩ := mem_collected_map.mp ha
    exact fresh_aggregateOf e
  keys := nodup_collected Aggregate.name _

/-- **A model that was read from a document is fresh.** -/
theorem fresh_ofDocument {document : Data} {source : Option String} {m : Model}
    (h : Model.ofDocument document source = .ok m) : m.Fresh := by
  obtain ⟨-, rfl⟩ := ofDocument_ok_iff.mp h
  exact fresh_model document source

/-! ## 3. The entities of a fresh model -/

namespace Aggregate

variable {a : Aggregate}

/-- The collection that is found for a kind is one of the collections. -/
theorem mem_collections {kind : Kind} {es : List Entity}
    (h : a.collections.lookup kind = some es) : (kind, es) ∈ a.collections := by
  obtain ⟨l, r, heq, _⟩ := List.lookup_eq_some_iff.mp h
  rw [heq]
  exact List.mem_append_right l List.mem_cons_self

theorem Fresh.entitiesOf (h : a.Fresh) {kind : Kind} {e : Entity} (he : e ∈ a.entitiesOf kind) :
    e.Fresh kind a.name := by
  unfold Aggregate.entitiesOf at he
  cases hl : a.collections.lookup kind with
  | none =>
      rw [hl] at he
      exact absurd he List.not_mem_nil
  | some es =>
      rw [hl] at he
      exact h.entities (kind, es) (mem_collections hl) e he

theorem Fresh.entity (h : a.Fresh) {e : Entity} (he : e ∈ a.entities) :
    e.owner = a.name ∧ e.names = none := by
  obtain ⟨kind, _, he⟩ := List.mem_flatMap.mp he
  exact ⟨(h.entitiesOf he).owner_eq, (h.entitiesOf he).unnamed⟩

/-- Among all entities those of one kind are the ones of its collection. -/
theorem Fresh.filter_kind (h : a.Fresh) (kind : Kind) :
    a.entities.filter (·.kind == kind) = a.entitiesOf kind := by
  have same : (a.entitiesOf kind).filter (·.kind == kind) = a.entitiesOf kind :=
    List.filter_eq_self.mpr fun e he => beq_iff_eq.mpr (h.entitiesOf he).kind_eq
  have other : ∀ k, k ≠ kind → (a.entitiesOf k).filter (·.kind == kind) = [] := fun k hk =>
    List.filter_eq_nil_iff.mpr fun e he heq =>
      hk ((h.entitiesOf he).kind_eq ▸ beq_iff_eq.mp heq)
  unfold Aggregate.entities Kind.all
  cases kind <;> simp [same, other]

end Aggregate

namespace Model

/-- All entities of a model in the order in which they are walked. -/
def entities (m : Model) : List Entity :=
  m.aggregates.flatMap Aggregate.entities

theorem count_none (m : Model) : m.count none = m.entities.length := rfl

/-- The entities of one kind are counted by their collections. -/
theorem Fresh.count_some {m : Model} (h : m.Fresh) (kind : Kind) :
    m.count (some kind) = (m.entities.filter (·.kind == kind)).length := by
  unfold Model.count Model.entities
  rw [List.filter_flatMap]
  congr 1
  exact List.flatMap_congr fun a ha => ((h.aggregates a ha).filter_kind kind).symm

/-- The aggregate of an entity is found. -/
theorem Fresh.ownerOf {m : Model} (h : m.Fresh) {a : Aggregate} (ha : a ∈ m.aggregates)
    {e : Entity} (he : e.owner = a.name) : m.ownerOf e = .ok a := by
  unfold Model.ownerOf Model.aggregate
  rw [he]
  cases hfound : m.aggregates.find? (·.name == a.name) with
  | none => exact absurd (beq_iff_eq.mpr rfl) (List.find?_eq_none.mp hfound a ha)
  | some b =>
      have hfits := List.find?_some hfound
      have hname : b.name = a.name := beq_iff_eq.mp hfits
      rw [List.inj_on_of_nodup_map h.keys (List.mem_of_find?_eq_some hfound) ha hname]

end Model

/-! ## 4. Other fields -/

/-- No field of an aggregate has the key of a collection. -/
theorem fields_ofDocument {document : Data} {source : Option String} {m : Model}
    (h : Model.ofDocument document source = .ok m) :
    ∀ a ∈ m.aggregates, ∀ x ∈ a.fields, isCollectionKey x.1 = false := by
  obtain ⟨-, rfl⟩ := ofDocument_ok_iff.mp h
  intro a ha x hx
  obtain ⟨e, -, rfl⟩ := mem_collected_map.mp ha
  exact Bool.not_eq_true' _ ▸ (List.mem_filter.mp hx).2

/-- No other entry of the document has the key of the section of aggregates. -/
theorem extra_ofDocument {document : Data} {source : Option String} {m : Model}
    (h : Model.ofDocument document source = .ok m) :
    ∀ x ∈ m.extra, x.1.sameKey (.text aggregatesKey) = false := by
  obtain ⟨-, rfl⟩ := ofDocument_ok_iff.mp h
  intro x hx
  exact Bool.not_eq_true' _ ▸ (List.mem_filter.mp hx).2

end DomainGen
