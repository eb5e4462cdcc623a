import DomainGen.Generation.Generator
import DomainGen.Proofs.Model.Fresh

/-!
# The names of a whole model

Naming a model goes through its items one by one and stops at the first that has names already. A
fresh model has none that has, so all of it gets its names, and they are those its keys give. Whatever
model gets all its names, they come from the generator.

* `Generator.decorated` : a model with all names, item by item and without any order;
* `nameModel_fresh` : **naming a fresh model gives the decorated one and never fails**;
* `nameModel_eq_ok` : what the names of a model are if it got all of them.
-/

namespace DomainGen

namespace Generator

variable (g : Generator)

/-! ## 1. Decorated items -/

/-- The names the keys of an entity give. -/
def namesOf (e : Entity) : Names := g.entityNames e.kind e.owner e.name

/-- An entity with its names. -/
def decoratedEntity (e : Entity) : Entity := { e with names := some (g.namesOf e) }

/-- An aggregate with its names and those of its entities. -/
def decoratedAggregate (a : Aggregate) : Aggregate :=
  { a with
    collections := a.collections.map fun c => (c.1, c.2.map g.decoratedEntity)
    names := some (g.aggregateNames a.name) }

/-- A model with the names of all its items. -/
def decorated (m : Model) : Model :=
  { m with aggregates := m.aggregates.map g.decoratedAggregate }

theorem lookup_map_snd {α : Type} (f : α → α) (kind : Kind) : ∀ cs : List (Kind × α),
    (cs.map fun c => (c.1, f c.2)).lookup kind = (cs.lookup kind).map f
  | [] => rfl
  | (k, x) :: rest => by
      rw [List.map_cons, List.lookup_cons, List.lookup_cons, lookup_map_snd f kind rest]
      cases kind == k <;> rfl

theorem entitiesOf_decoratedAggregate (a : Aggregate) (kind : Kind) :
    (g.decoratedAggregate a).entitiesOf kind = (a.entitiesOf kind).map g.decoratedEntity := by
  unfold Aggregate.entitiesOf decoratedAggregate
  rw [lookup_map_snd (List.map g.decoratedEntity)]
  cases a.collections.lookup kind <;> rfl

/-- Decorating keeps the entities and their order. -/
theorem entities_decoratedAggregate (a : Aggregate) :
    (g.decoratedAggregate a).entities = a.entities.map g.decoratedEntity := by
  unfold Aggregate.entities
  rw [List.map_flatMap]
  congr 1
  funext kind
  exact g.entitiesOf_decoratedAggregate a kind

/-! ## 2. Naming a fresh model -/

/-- Where no item has names yet, all of them get theirs. -/
theorem nameUpTo_all {α : Type} {nameOne : α → α × Option ModelError} {named : α → α} :
    ∀ {xs : List α}, (∀ x ∈ xs, nameOne x = (named x, none)) →
      nameUpTo nameOne xs = (xs.map named, none)
  | [], _ => rfl
  | x :: rest, h => by
      have hx := h x List.mem_cons_self
      have hrest := nameUpTo_all fun y hy => h y (List.mem_cons_of_mem x hy)
      simp only [nameUpTo, hx, hrest, List.map_cons]

theorem nameEntity_fresh {kind : Kind} {owner : String} {e : Entity} (h : e.Fresh kind owner) :
    g.nameEntity owner e = (g.decoratedEntity e, none) := by
  obtain ⟨_, rfl, hn⟩ := h
  unfold nameEntity Entity.assignNames assignOnce
  rw [hn]
  rfl

theorem nameCollection_fresh {owner : String} {c : Kind × List Entity}
    (h : ∀ e ∈ c.2, e.Fresh c.1 owner) :
    g.nameCollection owner c = ((c.1, c.2.map g.decoratedEntity), none) := by
  unfold nameCollection
  rw [nameUpTo_all fun e he => g.nameEntity_fresh (h e he)]

theorem nameAggregate_fresh {a : Aggregate} (h : a.Fresh) :
    g.nameAggregate a = (g.decoratedAggregate a, none) := by
  unfold nameAggregate Aggregate.assignNames assignOnce
  rw [h.unnamed]
  simp only [bind, Except.bind, pure, Except.pure]
  rw [nameUpTo_all fun c hc => g.nameCollection_fresh (h.entities c hc)]
  rfl

/-- **A fresh model gets all its names.** -/
theorem nameModel_fresh {m : Model} (h : m.Fresh) : g.nameModel m = (g.decorated m, none) := by
  unfold nameModel
  rw [nameUpTo_all fun a ha => g.nameAggregate_fresh (h.aggregates a ha)]
  rfl

/-! ## 3. Naming any model -/

/-- Where all items got their names, each of them did. -/
theorem mem_of_nameUpTo {α : Type} {nameOne : α → α × Option ModelError} :
    ∀ {xs ys : List α}, nameUpTo nameOne xs = (ys, none) → ∀ y ∈ ys, ∃ x ∈ xs, nameOne x = (y, none)
  | [], ys, h, y, hy => by
      cases h
      exact absurd hy List.not_mem_nil
  | x :: rest, ys, h, y, hy => by
      unfold nameUpTo at h
      rcases hx : nameOne x with ⟨z, _ | problem⟩
      · rcases hrest : nameUpTo nameOne rest with ⟨zs, problem⟩
        rw [hx, hrest] at h
        obtain ⟨rfl, rfl⟩ := Prod.mk.inj h
        rcases List.mem_cons.mp hy with rfl | hy
        · exact ⟨x, List.mem_cons_self, hx⟩
        · obtain ⟨x', hx', hname⟩ := mem_of_nameUpTo hrest y hy
          exact ⟨x', List.mem_cons_of_mem x hx', hname⟩
      · rw [hx] at h
        cases h

theorem nameEntity_eq_ok {owner : String} {e named : Entity}
    (h : g.nameEntity owner e = (named, none)) :
    named.names = some (g.entityNames named.kind owner named.name) := by
  unfold nameEntity Entity.assignNames assignOnce at h
  cases hn : e.names with
  | some old =>
      rw [hn] at h
      cases h
  | none =>
      rw [hn] at h
      cases h
      rfl

theorem nameAggregate_eq_ok {a named : Aggregate} (h : g.nameAggregate a = (named, none)) :
    named.names = some (g.aggregateNames named.name) ∧ ∀ e ∈ named.entities,
      e.names = some (g.entityNames e.kind named.name e.name) := by
  unfold nameAggregate Aggregate.assignNames assignOnce at h
  cases hn : a.names with
  | some old =>
      rw [hn] at h
      cases h
  | none =>
      simp only [hn, bind, Except.bind, pure, Except.pure] at h
      rcases hc : nameUpTo (g.nameCollection a.name) a.collections with ⟨collections, problem⟩
      rw [hc] at h
      obtain ⟨rfl, rfl⟩ := Prod.mk.inj h
      refine ⟨rfl, fun e he => ?_⟩
      obtain ⟨kind, -, he⟩ := List.mem_flatMap.mp he
      unfold Aggregate.entitiesOf at he
      cases hl : collections.lookup kind with
      | none =>
          rw [hl] at he
          exact absurd he List.not_mem_nil
      | some es =>
          rw [hl] at he
          have hmem : (kind, es) ∈ collections :=
            Aggregate.mem_collections (a := { a with collections }) hl
          obtain ⟨c, -, hnamed⟩ := mem_of_nameUpTo hc (kind, es) hmem
          unfold nameCollection at hnamed
          rcases hes : nameUpTo (g.nameEntity a.name) c.2 with ⟨named, problem⟩
          rw [hes] at hnamed
          obtain ⟨hpair, rfl⟩ := Prod.mk.inj hnamed
          cases hpair
          obtain ⟨x, -, hx⟩ := mem_of_nameUpTo hes e he
          exact g.nameEntity_eq_ok hx

/-- **A model that got all its names has those that the generator gives.** -/
theorem nameModel_eq_ok {m named : Model} (h : g.nameModel m = (named, none)) :
    ∀ a ∈ named.aggregates, a.names = some (g.aggregateNames a.name) ∧
      ∀ e ∈ a.entities, e.names = some (g.entityNames e.kind a.name e.name) := by
  intro a ha
  unfold nameModel at h
  rcases hm : nameUpTo g.nameAggregate m.aggregates with ⟨aggregates, problem⟩
  rw [hm] at h
  obtain ⟨rfl, rfl⟩ := Prod.mk.inj h
  obtain ⟨x, -, hx⟩ := mem_of_nameUpTo hm a ha
  exact g.nameAggregate_eq_ok hx

end Generator

end DomainGen
