import DomainGen.Proofs.Generation.Completeness

/-!
# Naming a model once

The names of a model are given before anything that can fail, so after the first call every item has
its names, however the call has ended. No later call gets past the first aggregate: it has names
already, so nothing is rendered, handed over or named anew.

* `Naming.Derives`, `Generator.NamesAggregate` : the names that keys give;
* `Model.Later` : a model after any number of calls, each with a generator and a sink of its own;
* `generate_named` : a call on a model whose first aggregate has names changes nothing;
* `generate_named_once` : **the first call gives all names, and no later call changes anything.**
-/

namespace DomainGen

/-! ## 1. The names that keys give -/

/-- What a naming derives from a key and the key of the owner. -/
def Naming.Derives (n : Naming) (name : String) (owner : Option String) (x : Names) : Prop :=
  n.publishedName name owner = .ok x.className ∧ n.fileName name owner = .ok x.fileName

namespace Generator

variable (g : Generator)

/-- How the items of a kind are named, or aggregates. -/
def naming : Option Kind → Naming
  | none => ⟨.ofKind none, g.aggregate⟩
  | some kind => ⟨.ofKind (some kind), g.policyOf kind⟩

/-- An aggregate and all of its entities have the names that their keys give. -/
structure NamesAggregate (a : Aggregate) : Prop where
  own : ∃ x, a.names = some x ∧ (g.naming none).Derives a.name none x
  entities : ∀ c ∈ a.collections, ∀ y ∈ c.2,
    ∃ x, y.names = some x ∧ (g.naming (some y.kind)).Derives y.name (some a.name) x

theorem derives_aggregateNames (name : String) :
    (g.naming none).Derives name none (g.aggregateNames name) := ⟨rfl, rfl⟩

theorem derives_entityNames (kind : Kind) (owner name : String) :
    (g.naming (some kind)).Derives name (some owner) (g.entityNames kind owner name) := ⟨rfl, rfl⟩

/-- **A fresh aggregate is given the names that its keys give.** -/
theorem namesAggregate_decorated {a : Aggregate} (h : a.Fresh) :
    g.NamesAggregate (g.decoratedAggregate a) := by
  refine ⟨⟨_, rfl, g.derives_aggregateNames a.name⟩, fun c hc y hy => ?_⟩
  obtain ⟨d, hd, rfl⟩ := List.mem_map.mp hc
  obtain ⟨x, hx, rfl⟩ := List.mem_map.mp hy
  refine ⟨_, rfl, ?_⟩
  unfold namesOf
  rw [(h.entities d hd x hx).owner_eq]
  exact g.derives_entityNames x.kind a.name x.name

/-! ## 2. A model with names -/

variable {g} {m : Model} {a : Aggregate} {rest : List Aggregate} {x : Names}

theorem nameAggregate_named (g : Generator) (hn : a.names = some x) :
    g.nameAggregate a = (a, some (.alreadyNamed a.item)) := by
  unfold nameAggregate Aggregate.assignNames assignOnce
  rw [hn]
  rfl

/-- Naming stops at the first aggregate if that has names. -/
theorem nameModel_named (g : Generator) (hm : m.aggregates = a :: rest) (hn : a.names = some x) :
    g.nameModel m = (m, some (.alreadyNamed a.item)) := by
  unfold nameModel
  rw [hm]
  unfold nameUpTo
  rw [nameAggregate_named g hn]
  dsimp only
  rw [← hm]

/-- **A call on a model whose first aggregate has names changes nothing.** -/
theorem generate_named {ρ σ : Type} (g : Generator) (render : Renderer ρ) (sink : Sink σ)
    (hm : m.aggregates = a :: rest) (hn : a.names = some x) (e : ρ) (s : σ) :
    g.generate render sink m e s = ⟨m, e, s, .error (.model (.alreadyNamed a.item))⟩ := by
  unfold generate
  rw [nameModel_named g hm hn]

end Generator

/-! ## 3. Later calls -/

/-- What a model is after any number of calls on it. -/
inductive Model.Later (m : Model) : Model → Prop where
  | now : Later m m
  | generated {ρ σ : Type} {n : Model} (h : Later m n) (g : Generator) (render : Renderer ρ)
      (sink : Sink σ) (e : ρ) (s : σ) : Later m (g.generate render sink n e s).model

namespace Model

variable {m n : Model}

/-- Once its first aggregate has names a model stays what it is. -/
theorem Later.eq_of_named {a : Aggregate} {rest : List Aggregate} {x : Names}
    (hm : m.aggregates = a :: rest) (hn : a.names = some x) (h : m.Later n) : n = m := by
  induction h with
  | now => rfl
  | generated _ g render sink e s ih => rw [ih, g.generate_named render sink hm hn]

/-- Generating a fresh model leaves it with all its names. -/
theorem Fresh.model_generate {ρ σ : Type} (h : m.Fresh) (g : Generator) (render : Renderer ρ)
    (sink : Sink σ) (e : ρ) (s : σ) : (g.generate render sink m e s).model = g.decorated m := by
  rw [generate_eq_takeSteps g render sink h]

theorem head_decorated (g : Generator) {a : Aggregate} {rest : List Aggregate}
    (hm : m.aggregates = a :: rest) : (g.decorated m).aggregates =
      g.decoratedAggregate a :: rest.map g.decoratedAggregate := by
  unfold Generator.decorated
  rw [hm]
  rfl

/-- **A model that was read is fresh as long as nothing was generated from it**; from then on its
    first aggregate has names. A model without aggregates is always fresh. -/
theorem Later.fresh_or_named (hm : m.Fresh) (h : m.Later n) :
    n.Fresh ∨ ∃ a rest x, n.aggregates = a :: rest ∧ a.names = some x := by
  induction h with
  | now => exact Or.inl hm
  | @generated _ _ n _ g render sink e s ih =>
      rcases ih with hf | ⟨a, rest, x, ha, hn⟩
      · rw [hf.model_generate g render sink e s]
        cases hn : n.aggregates with
        | nil =>
            have hempty : (g.decorated n).aggregates = [] := by
              unfold Generator.decorated
              rw [hn]
              rfl
            refine Or.inl ⟨fun a ha => ?_, ?_⟩
            · rw [hempty] at ha
              exact absurd ha List.not_mem_nil
            · rw [hempty]
              exact List.nodup_nil
        | cons a rest => exact Or.inr ⟨_, _, _, head_decorated g hn, rfl⟩
      · rw [g.generate_named render sink ha hn]
        exact Or.inr ⟨a, rest, x, ha, hn⟩

end Model

/-! ## 4. Main result -/

/-- **The first call gives all names, and no later call changes anything.** After the first call on a
    model that was read, whatever ended it, every aggregate and every entity has the names that its
    key and that of its owner give, and nothing else of the model has changed. Every call after it,
    by whatever generator and into whatever sink, fails because the first aggregate has its names
    already; it leaves the model, what renders and the sink as they were. -/
theorem generate_named_once {ρ σ : Type} (g : Generator) (render : Renderer ρ) (sink : Sink σ)
    {document : Data} {source : Option String} {m : Model}
    (h : Model.ofDocument document source = .ok m) (hne : m.aggregates ≠ []) (e : ρ) (s : σ) :
    (∀ a ∈ (g.generate render sink m e s).model.aggregates, g.NamesAggregate a) ∧
    (g.generate render sink m e s).model = g.decorated m ∧
    ∀ n, (g.generate render sink m e s).model.Later n →
      ∀ {ρ' σ' : Type} (g' : Generator) (render' : Renderer ρ') (sink' : Sink σ') (e' : ρ')
        (s' : σ'), ∃ a, m.aggregates.head? = some a ∧ g'.generate render' sink' n e' s' =
          ⟨g.decorated m, e', s', .error (.model (.alreadyNamed a.item))⟩ := by
  have hf := fresh_ofDocument h
  rw [hf.model_generate g render sink e s]
  obtain ⟨a, rest, hm⟩ := List.exists_cons_of_ne_nil hne
  have hhead := Model.head_decorated g hm
  refine ⟨fun b hb => ?_, rfl, fun n hn ρ' σ' g' render' sink' e' s' => ⟨a, ?_, ?_⟩⟩
  · obtain ⟨c, hc, rfl⟩ := List.mem_map.mp hb
    exact g.namesAggregate_decorated (hf.aggregates c hc)
  · rw [hm]
    rfl
  · rw [hn.eq_of_named hhead rfl]
    exact g'.generate_named render' sink' hhead rfl e' s'

/-- A first call that ends when its sink refuses the third file, and a later one by another
    generator. -/
theorem generate_named_once_orders :
    (plainGenerator.generate countingRenderer (failingSink 2) orders 0 []).outcome.toOption.isNone ∧
      (plainGenerator.generate countingRenderer (failingSink 2) orders 0 []).model.aggregates.map
        (·.names) = [some ⟨"Order", "order.js"⟩, some ⟨"Invoice", "invoice.js"⟩] ∧
      { plainGenerator with aggregate := ⟨".ts", "roots", "Root", false⟩ }.generate countingRenderer
          memorySink (plainGenerator.generate countingRenderer (failingSink 2) orders 0 []).model 7
          [] =
        ⟨plainGenerator.decorated orders, 7, [],
          .error (.model (.alreadyNamed (.aggregate "order")))⟩ := by
  obtain ⟨_, hmodel, hlater⟩ := generate_named_once plainGenerator countingRenderer (failingSink 2)
    ofDocument_orders (List.cons_ne_nil _ _) 0 []
  obtain ⟨a, ha, hagain⟩ := hlater _ .now
    { plainGenerator with aggregate := ⟨".ts", "roots", "Root", false⟩ } countingRenderer memorySink
    7 []
  obtain rfl := Option.some.inj ha
  refine ⟨by decide +kernel, ?_, hagain⟩
  rw [hmodel]
  decide +kernel

end DomainGen
