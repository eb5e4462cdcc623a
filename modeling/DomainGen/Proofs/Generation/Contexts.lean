import DomainGen.Proofs.Generation.Calls
import DomainGen.Proofs.Model.Summary

/-!
# What the templates of a walk are given

The items of a model are named before any of them is rendered, so the template of every item sees the
names of all of them, those of items that come later included.

* `Model.items` : the items of a model that have templates of their own, in order;
* `Generator.DescribesModel`, `DescribesAggregate`, `DescribesEntity` : what their templates are
  given;
* `generate_contexts` : **every call of a walk for an item describes the item**, and that for an entity
  holds what the call for its aggregate was given.
-/

namespace DomainGen

/-! ## 1. Items -/

/-- An item that has a template of its own. -/
inductive ModelItem where
  | aggregate (a : Aggregate)
  /-- An entity, with its aggregate. -/
  | entity (a : Aggregate) (x : Entity)

/-- An aggregate and its entities. -/
def Aggregate.items (a : Aggregate) : List ModelItem :=
  .aggregate a :: a.entities.map (.entity a)

/-- The items of a model in the order in which they are walked. -/
def Model.items (m : Model) : List ModelItem := m.aggregates.flatMap Aggregate.items

namespace Generator

variable (g : Generator)

/-- The file of an item. -/
def itemFile (modelContext : Data) : ModelItem → PlannedFile
  | .aggregate a => g.aggregateFile modelContext a
  | .entity a x =>
    g.entityFile (.mapping (g.aggregateContext modelContext (g.decoratedAggregate a))) x

theorem itemFiles_eq (m : Model) :
    g.itemFiles m = m.items.map (g.itemFile (.mapping (g.decorated m).context)) := by
  unfold itemFiles Model.items
  rw [List.map_flatMap]
  congr 1
  funext a
  unfold aggregateFiles Aggregate.items
  rw [List.map_cons, List.map_map]
  rfl

end Generator

theorem mem_items {m : Model} {item : ModelItem} (h : item ∈ m.items) :
    (∃ a ∈ m.aggregates, item = .aggregate a) ∨
      ∃ a ∈ m.aggregates, ∃ x ∈ a.entities, item = .entity a x := by
  obtain ⟨a, ha, h⟩ := List.mem_flatMap.mp h
  rcases List.mem_cons.mp h with rfl | h
  · exact Or.inl ⟨a, ha, rfl⟩
  · obtain ⟨x, hx, rfl⟩ := List.mem_map.mp h
    exact Or.inr ⟨a, ha, x, hx, rfl⟩

/-- Before an entity comes its aggregate. -/
theorem owner_before : ∀ {as : List Aggregate} {i : Nat} {a : Aggregate} {x : Entity},
    (as.flatMap Aggregate.items)[i]? = some (.entity a x) →
      ∃ j, j < i ∧ (as.flatMap Aggregate.items)[j]? = some (.aggregate a)
  | [], i, a, x, h => by cases h
  | b :: rest, i, a, x, h => by
      rw [List.flatMap_cons] at h ⊢
      by_cases hi : i < b.items.length
      · -- the item belongs to the first aggregate, which stands in front
        rw [List.getElem?_append_left hi] at h
        cases i with
        | zero => cases h
        | succ k =>
            have hk : (b.entities.map (ModelItem.entity b))[k]? = some (.entity a x) := h
            rw [List.getElem?_map] at hk
            obtain ⟨y, _, heq⟩ := Option.map_eq_some_iff.mp hk
            cases heq
            exact ⟨0, Nat.succ_pos k, rfl⟩
      · have hle : b.items.length ≤ i := Nat.le_of_not_lt hi
        rw [List.getElem?_append_right hle] at h
        obtain ⟨j, hj, ha⟩ := owner_before h
        refine ⟨b.items.length + j, by omega, ?_⟩
        rw [List.getElem?_append_right (Nat.le_add_right _ _), Nat.add_sub_cancel_left]
        exact ha

/-! ## 2. Descriptions -/

namespace Generator

variable (g : Generator)

/-- What templates are given of a model: summaries of all its aggregates, and the other entries of the
    document. -/
structure DescribesModel (m : Model) (c : Entries) : Prop where
  aggregates : ∃ summaries, c.get? "aggregates" = some (.mapping summaries) ∧
    MapsEach Aggregate.name (fun a => g.SummarizesAggregate a []) m.aggregates summaries
  others : c.besides ["aggregates"] = m.extra

/-- What the template of an aggregate is given. -/
structure DescribesAggregate (m : Model) (a : Aggregate) (c : Entries) : Prop where
  summary : g.SummarizesAggregate a ["kindPaths", "model"] c
  kindPaths : c.get? "kindPaths" = some (.mapping g.kindPaths)
  model : ∃ whole, c.get? "model" = some (.mapping whole) ∧ g.DescribesModel m whole

/-- What the template of an entity is given, where that of its aggregate was given `owner`. -/
structure DescribesEntity (x : Entity) (owner c : Entries) : Prop where
  summary : g.SummarizesEntity x ["aggregate"] c
  aggregate : c.get? "aggregate" = some (.mapping owner)

/-! ## 3. The contexts of a named model -/

variable {m : Model}

/-- **The context of a named model describes it.** -/
theorem describesModel_context {document : Data} {source : Option String}
    (h : Model.ofDocument document source = .ok m) :
    g.DescribesModel m (g.decorated m).context := by
  have hf := fresh_ofDocument h
  refine ⟨⟨_, Entries.get?_set_self _ _ _, ?_⟩, ?_⟩
  · refine mapsEach_map fun a ha => ⟨_, rfl, ?_⟩
    exact g.summarizesAggregate_summary (hf.aggregates a ha) (fields_ofDocument h a ha) []
  · have hextra : ∀ e ∈ m.extra, e.1.isAmong ["aggregates"] = false := by
      intro e he
      cases hkey : e.1.isAmong ["aggregates"] with
      | false => rfl
      | true =>
          obtain ⟨s, hs⟩ : ∃ s, e.1 = .text s := by
            cases hdata : e.1 <;> rw [hdata] at hkey <;> first | cases hkey | exact ⟨_, rfl⟩
          have hno := extra_ofDocument h e he
          rw [hs] at hkey hno
          rw [List.mem_singleton.mp (Data.isAmong_iff.mp hkey)] at hno
          cases hno
    show Entries.besides (Entries.set m.extra "aggregates" _) ["aggregates"] = m.extra
    rw [Entries.besides_set _ _ List.mem_cons_self]
    refine List.filter_eq_self.mpr fun e he => ?_
    rw [hextra e he]
    rfl

/-- The context of a named aggregate describes it. -/
theorem describesAggregate_context {document : Data} {source : Option String}
    (h : Model.ofDocument document source = .ok m) {a : Aggregate} (ha : a ∈ m.aggregates) :
    g.DescribesAggregate m a
      (g.aggregateContext (.mapping (g.decorated m).context) (g.decoratedAggregate a)) := by
  have hsummary := g.summarizesAggregate_summary ((fresh_ofDocument h).aggregates a ha)
    (fields_ofDocument h a ha) ["kindPaths", "model"]
  have hmodel : "model" ∉ namedKeys a.defaults ∧ "model" ∉ collectionKeys := by
    show "model" ∉ ["name", "className", "fileName"] ∧ _
    decide
  have hpaths : "kindPaths" ∉ namedKeys a.defaults ∧ "kindPaths" ∉ collectionKeys := by
    show "kindPaths" ∉ ["name", "className", "fileName"] ∧ _
    decide
  refine ⟨?_, Entries.get?_set_self _ _ _, _, ?_, g.describesModel_context h⟩
  · refine (hsummary.set _ ?_ hmodel.1 hmodel.2).set _ ?_ hpaths.1 hpaths.2
    · exact List.mem_cons_of_mem _ List.mem_cons_self
    · exact List.mem_cons_self
  · exact (Entries.get?_set_other _ _ (by decide)).trans (Entries.get?_set_self _ _ _)

/-- The context of a named entity describes it. -/
theorem describesEntity_context (x : Entity) (owner : Entries) :
    g.DescribesEntity x owner (Model.entityContext (g.decoratedEntity x) (.mapping owner)) := by
  have hfree : "aggregate" ∉ namedKeys x.defaults := by
    show "aggregate" ∉ ["name", "kind", "className", "fileName"]
    decide
  exact ⟨(g.summarizesEntity_summary x ["aggregate"]).set _ List.mem_cons_self hfree,
    Entries.get?_set_self _ _ _⟩

end Generator

/-! ## 4. Main result -/

variable {ρ σ : Type} {m : Model}

/-- The call at the place of an item is that of the file of the item. -/
theorem call_of_item {g : Generator} {calls : List RenderCall}
    (hcalls : calls.map some <+: (g.plannedFiles m).map PlannedFile.call?) {i : Nat}
    {item : ModelItem} (hitem : m.items[i]? = some item) {call : RenderCall}
    (hcall : calls[i]? = some call) :
    (g.itemFile (.mapping (g.decorated m).context) item).call? = some call := by
  obtain ⟨rest, hrest⟩ := hcalls
  have hplanned : ((g.plannedFiles m).map PlannedFile.call?)[i]? = some (some call) := by
    rw [← hrest, List.getElem?_append_left, List.getElem?_map, hcall]
    · rfl
    · rw [List.length_map]
      exact (List.getElem?_eq_some_iff.mp hcall).1
  have hfile : (g.plannedFiles m)[i]? =
      some (g.itemFile (.mapping (g.decorated m).context) item) := by
    unfold Generator.plannedFiles
    rw [g.itemFiles_eq, List.getElem?_append_left, List.getElem?_map, hitem]
    · rfl
    · rw [List.length_map]
      exact (List.getElem?_eq_some_iff.mp hitem).1
  rw [List.getElem?_map, hfile] at hplanned
  exact Option.some.inj hplanned

/-- **Every call of a walk for an item describes the item**: from the first call on templates are
    given the names of the whole model, and what the template of an entity is given of its aggregate
    is what the template of the aggregate was given before. A walk that succeeds has a call for each
    item. -/
theorem generate_contexts (g : Generator) (render : Renderer ρ) (sink : Sink σ) {document : Data}
    {source : Option String} (h : Model.ofDocument document source = .ok m) (e : ρ) (s : σ) :
    (∀ (i : Nat) (a : Aggregate) (call : RenderCall), m.items[i]? = some (.aggregate a) →
      (g.calls render sink m e s)[i]? = some call →
        g.config.templateFor aggregateRole = .ok call.template ∧
          g.DescribesAggregate m a call.context) ∧
    (∀ (i : Nat) (a : Aggregate) (x : Entity) (call : RenderCall),
      m.items[i]? = some (.entity a x) → (g.calls render sink m e s)[i]? = some call →
        g.config.templateFor x.kind.text = .ok call.template ∧
          ∃ (j : Nat) (owner : RenderCall), j < i ∧ m.items[j]? = some (.aggregate a) ∧
            (g.calls render sink m e s)[j]? = some owner ∧
            g.DescribesEntity x owner.context call.context) ∧
    ∀ gen, (g.generate render sink m e s).outcome = .ok gen →
      m.items.length ≤ (g.calls render sink m e s).length := by
  obtain ⟨_, _, _, hcalls, hall⟩ :=
    generate_recording g render sink (fresh_ofDocument h) e s
  refine ⟨fun i a call hitem hcall => ?_, fun i a x call hitem hcall => ?_, fun gen hgen => ?_⟩
  · obtain ⟨htemplate, hcontext⟩ := call?_eq_some (call_of_item hcalls hitem hcall)
    have ha : a ∈ m.aggregates := by
      rcases mem_items (List.mem_of_getElem? hitem) with ⟨b, hb, heq⟩ | ⟨_, _, _, _, heq⟩
      · cases heq
        exact hb
      · cases heq
    exact ⟨htemplate, hcontext ▸ g.describesAggregate_context h ha⟩
  · obtain ⟨htemplate, hcontext⟩ := call?_eq_some (call_of_item hcalls hitem hcall)
    obtain ⟨j, hj, howner⟩ := owner_before hitem
    have hlength : j < (g.calls render sink m e s).length :=
      Nat.lt_trans hj (List.getElem?_eq_some_iff.mp hcall).1
    have hother : (g.calls render sink m e s)[j]? = some _ := List.getElem?_eq_getElem hlength
    obtain ⟨_, hgiven⟩ := call?_eq_some (call_of_item hcalls howner hother)
    refine ⟨htemplate, j, _, hj, howner, hother, ?_⟩
    rw [← hgiven, ← hcontext]
    exact g.describesEntity_context x _
  · have hlength := congrArg List.length (hall gen hgen)
    rw [List.length_map, List.length_map] at hlength
    rw [hlength]
    unfold Generator.plannedFiles
    rw [g.itemFiles_eq, List.length_append, List.length_map]
    exact Nat.le_add_right _ _

/-- A document whose items have fields with the keys of what is derived for them. -/
def clashingDocument : Data :=
  .mapping [(.text "aggregates", .mapping [(.text "order", .mapping [
    (.text "name", .text "purchase"), (.text "className", .null), (.text "model", .int 1),
    (.text "commands", .null),
    (.text "events", .mapping [(.text "placed", .mapping [(.text "kind", .text "fact")])])])])]

/-- The aggregate of the document. -/
def clashingAggregate : Aggregate :=
  ⟨"order", [(.text "name", .text "purchase"), (.text "className", .null), (.text "model", .int 1)],
    [(.command, []), (.event, [⟨.event, "placed", "order", [(.text "kind", .text "fact")], none⟩])],
    none⟩

theorem generate_contexts_clashing :
    ∃ aggregate entity : RenderCall,
      (plainGenerator.calls countingRenderer memorySink ⟨[clashingAggregate], [], none⟩ 0 [])[0]? =
          some aggregate ∧
        (plainGenerator.calls countingRenderer memorySink ⟨[clashingAggregate], [], none⟩ 0 [])[1]? =
          some entity ∧
        aggregate.context.get? "className" = some (.text "Order") ∧
        aggregate.context.get? "name" = some (.text "purchase") ∧
        aggregate.context.get? "faults" = none ∧
        entity.context.get? "kind" = some (.text "fact") ∧
        entity.context.get? "aggregate" = some (.mapping aggregate.context) := by
  have hread : Model.ofDocument clashingDocument none = .ok ⟨[clashingAggregate], [], none⟩ := rfl
  have hlength : (plainGenerator.calls countingRenderer memorySink
      ⟨[clashingAggregate], [], none⟩ 0 []).length = 4 := by decide +kernel
  obtain ⟨haggregates, hentities, _⟩ :=
    generate_contexts plainGenerator countingRenderer memorySink hread 0 []
  have hsecond := List.getElem?_eq_getElem (i := 1) (hlength ▸ (by decide : 1 < 4))
  obtain ⟨_, j, owner, hj, _, howner, hentity⟩ := hentities 1 clashingAggregate _ _ rfl hsecond
  obtain rfl : j = 0 := Nat.lt_one_iff.mp hj
  obtain ⟨_, haggregate⟩ := haggregates 0 clashingAggregate owner rfl howner
  refine ⟨owner, _, howner, hsecond, haggregate.summary.carries.className, ?_, ?_, ?_,
    hentity.aggregate⟩
  · exact haggregate.summary.carries.default _ List.mem_cons_self
  · exact haggregate.summary.undeclared .fault (by decide)
  · exact hentity.summary.default _ (List.mem_cons_of_mem _ List.mem_cons_self)

end DomainGen
