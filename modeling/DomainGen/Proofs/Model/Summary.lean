import DomainGen.Proofs.Data.Overriding
import DomainGen.Proofs.Generation.Decoration

/-!
# What templates are given of a named item

The context of an item is written in layers: its key, its own fields, its names, its collections and
what surrounds it. This module reads the layers off: which of them a template sees under which key.

* `Carries` : an item's names win over its fields, and its fields over its key;
* `Generator.SummarizesEntity`, `Generator.SummarizesAggregate` : what templates are given of an item,
  without any order of layers;
* `summarizesEntity_summary`, `summarizesAggregate_summary` : **the summaries of named items are such**.
-/

namespace DomainGen

/-! ## 1. Names over fields over defaults -/

/-- The keys of the names of an item and of what it has without them. -/
def namedKeys (defaults : List (String × Data)) : List String :=
  defaults.map (·.1) ++ ["className", "fileName"]

/-- Entries with the names of an item and with its fields, where its fields come before some
    defaults. Beside these keys and some others there are its fields and nothing else. -/
structure Carries (names : Names) (defaults : List (String × Data)) (fields : Entries)
    (more : List String) (c : Entries) : Prop where
  className : c.get? "className" = some (.text names.className)
  fileName : c.get? "fileName" = some (.text names.fileName)
  default : ∀ x ∈ defaults, c.get? x.1 = some (((Entries.ofList fields).get? x.1).getD x.2)
  others : c.besides (namedKeys defaults ++ more) =
    (Entries.ofList fields).besides (namedKeys defaults ++ more)

section Carries

variable {names : Names} {defaults : List (String × Data)} {fields c : Entries}
  {more : List String}

/-- Names are written behind the fields, and the fields behind the defaults. -/
theorem carries_layers (hn : (namedKeys defaults).Nodup) (names : Names) (fields : Entries)
    (more : List String) : Carries names defaults fields more
      (((Entries.ofFields defaults).update fields).update (namesContext (some names))) := by
  have hkeys : (namesContext (some names)).map (·.1) = [.text "className", .text "fileName"] := rfl
  have hnames : ((namesContext (some names)).map (·.1)).Nodup := by
    rw [hkeys]
    simp
  obtain ⟨hdefaults, _, hapart⟩ := List.nodup_append.mp hn
  refine ⟨?_, ?_, fun x hx => ?_, ?_⟩
  · exact Entries.get?_update_of_mem hnames List.mem_cons_self
  · exact Entries.get?_update_of_mem hnames (List.mem_cons_of_mem _ List.mem_cons_self)
  · have hfree : .text x.1 ∉ (namesContext (some names)).map (·.1) := by
      rw [hkeys]
      intro hmem
      have hname : x.1 ∈ ["className", "fileName"] := by simpa using hmem
      exact hapart x.1 (List.mem_map_of_mem hx) x.1 hname rfl
    have hown : (Entries.ofFields defaults).get? x.1 = some x.2 :=
      Entries.get?_ofFields hdefaults hx
    rw [Entries.get?_update_of_not_mem hfree, Entries.get?_update, hown]
    cases (Entries.ofList fields).get? x.1 <;> rfl
  · have hlow : (Entries.ofFields defaults).besides (namedKeys defaults ++ more) = [] := by
      refine Entries.besides_eq_nil fun e he => ?_
      obtain ⟨x, hx, rfl⟩ := List.mem_map.mp he
      refine Data.isAmong_iff.mpr (List.mem_append_left _ (List.mem_append_left _ ?_))
      exact List.mem_map_of_mem hx
    have hhigh : (namesContext (some names)).besides (namedKeys defaults ++ more) = [] := by
      refine Entries.besides_eq_nil fun e he => ?_
      have hmem : e.1 ∈ [.text "className", .text "fileName"] :=
        hkeys ▸ List.mem_map_of_mem he
      unfold namedKeys
      rcases List.mem_cons.mp hmem with hkey | hkey
      · rw [hkey]
        exact Data.isAmong_iff.mpr (by simp)
      · rw [List.mem_singleton.mp hkey]
        exact Data.isAmong_iff.mpr (by simp)
    rw [Entries.besides_update, Entries.besides_update, hlow, hhigh]
    exact (Entries.besides_update [] fields).symm

/-- A layer with none of the keys of the item hides nothing of it. -/
theorem Carries.update (h : Carries names defaults fields more c) {layer : List (String × Data)}
    (hmore : ∀ x ∈ layer, x.1 ∈ more) (hfree : ∀ x ∈ layer, x.1 ∉ namedKeys defaults) :
    Carries names defaults fields more (c.update (Entries.ofFields layer)) := by
  have hkept : ∀ s ∈ namedKeys defaults,
      (c.update (Entries.ofFields layer)).get? s = c.get? s := by
    intro s hs
    refine Entries.get?_update_of_not_mem fun hmem => ?_
    rw [Entries.map_ofFields, List.map_map] at hmem
    obtain ⟨x, hx, heq⟩ := List.mem_map.mp hmem
    have hx1 : x.1 = s := Data.text.inj heq
    exact hfree x hx (hx1 ▸ hs)
  have hlayer : (Entries.ofFields layer).besides (namedKeys defaults ++ more) = [] := by
    refine Entries.besides_eq_nil fun e he => ?_
    obtain ⟨x, hx, rfl⟩ := List.mem_map.mp he
    exact Data.isAmong_iff.mpr (List.mem_append_right _ (hmore x hx))
  refine ⟨?_, ?_, fun x hx => ?_, ?_⟩
  · rw [hkept _ (by simp [namedKeys])]
    exact h.className
  · rw [hkept _ (by simp [namedKeys])]
    exact h.fileName
  · rw [hkept _ (List.mem_append_left _ (List.mem_map_of_mem hx))]
    exact h.default x hx
  · rw [Entries.besides_update, hlayer]
    exact h.others

/-- One more entry hides nothing of the item. -/
theorem Carries.set (h : Carries names defaults fields more c) {s : String} (v : Data)
    (hmore : s ∈ more) (hfree : s ∉ namedKeys defaults) :
    Carries names defaults fields more (c.set s v) := by
  show Carries names defaults fields more (c.update (Entries.ofFields [(s, v)]))
  refine h.update (fun x hx => ?_) fun x hx => ?_
  · rw [List.mem_singleton.mp hx]
    exact hmore
  · rw [List.mem_singleton.mp hx]
    exact hfree

end Carries

/-! ## 2. Summaries by key -/

/-- Entries that map the key of each item to a mapping that describes it, in order. -/
def MapsEach {α : Type} (key : α → String) (describes : α → Entries → Prop) (xs : List α)
    (es : Entries) : Prop :=
  List.Forall₂ (fun x entry => entry.1 = .text (key x) ∧
    ∃ c, entry.2 = .mapping c ∧ describes x c) xs es

theorem mapsEach_map {α β : Type} {key : α → String} {describes : α → Entries → Prop}
    {change : α → β} {entry : β → Data × Data} {xs : List α}
    (h : ∀ x ∈ xs, ∃ c, entry (change x) = (.text (key x), .mapping c) ∧ describes x c) :
    MapsEach key describes xs ((xs.map change).map entry) := by
  unfold MapsEach
  rw [List.map_map, List.forall₂_map_right_iff, List.forall₂_same]
  intro x hx
  obtain ⟨c, heq, hc⟩ := h x hx
  show (entry (change x)).1 = _ ∧ ∃ c, (entry (change x)).2 = _ ∧ _
  rw [heq]
  exact ⟨rfl, c, rfl, hc⟩

/-- An entry of such entries describes one of the items. -/
theorem MapsEach.exists_of_mem {α : Type} {key : α → String} {describes : α → Entries → Prop}
    {xs : List α} {es : Entries} (h : MapsEach key describes xs es) {entry : Data × Data}
    (he : entry ∈ es) : ∃ x ∈ xs, entry.1 = .text (key x) ∧
      ∃ c, entry.2 = .mapping c ∧ describes x c := by
  induction h with
  | nil => exact absurd he List.not_mem_nil
  | @cons x head _ _ hhead _ ih =>
      rcases List.mem_cons.mp he with rfl | he
      · exact ⟨x, List.mem_cons_self, hhead⟩
      · obtain ⟨y, hy, hdescribes⟩ := ih he
        exact ⟨y, List.mem_cons_of_mem _ hy, hdescribes⟩

/-! ## 3. Entities -/

/-- What an entity has without its names and fields. -/
def Entity.defaults (e : Entity) : List (String × Data) :=
  [("name", .text e.name), ("kind", .text e.kind.text)]

/-- What an aggregate has without its names and fields. -/
def Aggregate.defaults (a : Aggregate) : List (String × Data) :=
  [("name", .text a.name)]

namespace Generator

variable (g : Generator)

/-- What templates are given of an entity, beside entries of some other keys. -/
def SummarizesEntity (e : Entity) (more : List String) (c : Entries) : Prop :=
  Carries (g.namesOf e) e.defaults e.fields more c

/-- **A named entity is summarised by its names, its fields, its key and its kind.** -/
theorem summarizesEntity_summary (e : Entity) (more : List String) :
    g.SummarizesEntity e more (g.decoratedEntity e).summary := by
  have hn : (namedKeys e.defaults).Nodup := by
    show ["name", "kind", "className", "fileName"].Nodup
    decide
  exact carries_layers hn (g.namesOf e) e.fields more

/-! ## 4. Aggregates -/

/-- What templates are given of an aggregate, beside entries of some other keys: its declared
    collections, also the empty ones, and no others. -/
structure SummarizesAggregate (a : Aggregate) (more : List String) (c : Entries) : Prop where
  carries : Carries (g.aggregateNames a.name) a.defaults a.fields (collectionKeys ++ more) c
  declared : ∀ x ∈ a.collections, ∃ summaries, c.get? x.1.collection = some (.mapping summaries) ∧
    MapsEach Entity.name (fun e => g.SummarizesEntity e []) x.2 summaries
  undeclared : ∀ kind, kind ∉ a.collections.map (·.1) → c.get? kind.collection = none

end Generator

theorem Kind.collection_injective : Function.Injective Kind.collection := by
  intro k l
  cases k <;> cases l <;> decide

theorem Kind.collection_mem (kind : Kind) : kind.collection ∈ collectionKeys := by
  cases kind <;> decide

/-- The keys of the collections are not those of the names, nor `name`. -/
theorem collectionKeys_free (a : Aggregate) : ∀ s ∈ collectionKeys, s ∉ namedKeys a.defaults := by
  show ∀ s ∈ collectionKeys, s ∉ ["name", "className", "fileName"]
  decide

namespace Generator

variable (g : Generator)

/-- The collections of a named aggregate by their keys. -/
def collectionLayer (a : Aggregate) : List (String × Data) :=
  (g.decoratedAggregate a).collections.map fun c =>
    (c.1.collection, .mapping (Aggregate.entitySummaries c.2))

theorem map_collectionLayer (a : Aggregate) :
    (g.collectionLayer a).map (·.1) = (a.collections.map (·.1)).map Kind.collection := by
  unfold collectionLayer decoratedAggregate
  simp only [List.map_map]
  rfl

theorem map_ofFields_collectionLayer (a : Aggregate) :
    (Entries.ofFields (g.collectionLayer a)).map (·.1) =
      (a.collections.map (·.1)).map fun kind => .text kind.collection := by
  rw [Entries.map_ofFields, map_collectionLayer, List.map_map]
  rfl

/-- Each collection is in the layer, with the summaries of its named entities. -/
theorem mem_collectionLayer {a : Aggregate} {x : Kind × List Entity} (hx : x ∈ a.collections) :
    (x.1.collection, .mapping (Aggregate.entitySummaries (x.2.map g.decoratedEntity))) ∈
      g.collectionLayer a := by
  unfold collectionLayer decoratedAggregate
  rw [List.map_map]
  exact List.mem_map_of_mem hx

/-- No key occurs twice in the layer of an aggregate as it is read. -/
theorem nodup_collectionLayer {a : Aggregate} (h : a.Fresh) :
    ((Entries.ofFields (g.collectionLayer a)).map (·.1)).Nodup := by
  rw [map_ofFields_collectionLayer]
  have hkinds : (a.collections.map (·.1)).Nodup := (by decide : Kind.all.Nodup).sublist h.kinds
  exact hkinds.map fun _ _ heq => Kind.collection_injective (Data.text.inj heq)

/-- A kind without a collection is not in the layer. -/
theorem not_mem_collectionLayer {a : Aggregate} {kind : Kind}
    (h : kind ∉ a.collections.map (·.1)) :
    .text kind.collection ∉ (Entries.ofFields (g.collectionLayer a)).map (·.1) := by
  rw [map_ofFields_collectionLayer]
  intro hm
  obtain ⟨k, hk, heq⟩ := List.mem_map.mp hm
  exact h (Kind.collection_injective (Data.text.inj heq) ▸ hk)

/-- The layers of the summary of a named aggregate. -/
theorem summary_decoratedAggregate (a : Aggregate) : (g.decoratedAggregate a).summary =
    (((Entries.ofFields a.defaults).update a.fields).update
      (namesContext (some (g.aggregateNames a.name)))).update
        (Entries.ofFields (g.collectionLayer a)) := by
  unfold Aggregate.summary Entries.ofFields collectionLayer
  rw [List.map_map]
  rfl

/-- **A named aggregate is summarised by its names, its fields, its key and the summaries of its
    entities.** -/
theorem summarizesAggregate_summary {a : Aggregate} (h : a.Fresh)
    (hplain : ∀ x ∈ a.fields, isCollectionKey x.1 = false) (more : List String) :
    g.SummarizesAggregate a more (g.decoratedAggregate a).summary := by
  have hn : (namedKeys a.defaults).Nodup := by
    show ["name", "className", "fileName"].Nodup
    decide
  have hmem : ∀ x ∈ g.collectionLayer a, x.1 ∈ collectionKeys := by
    intro x hx
    have hkey : x.1 ∈ (a.collections.map (·.1)).map Kind.collection :=
      g.map_collectionLayer a ▸ List.mem_map_of_mem hx
    obtain ⟨kind, _, hkind⟩ := List.mem_map.mp hkey
    exact hkind ▸ kind.collection_mem
  rw [summary_decoratedAggregate]
  refine ⟨?_, fun x hx => ?_, fun kind hkind => ?_⟩
  · refine (carries_layers hn _ _ _).update (fun x hx => ?_) fun x hx => ?_
    · exact List.mem_append_left _ (hmem x hx)
    · exact collectionKeys_free a x.1 (hmem x hx)
  · have hlayer := Entries.mem_ofFields (g.mem_collectionLayer hx)
    refine ⟨_, Entries.get?_update_of_mem (g.nodup_collectionLayer h) hlayer, ?_⟩
    exact mapsEach_map fun e _ => ⟨_, rfl, g.summarizesEntity_summary e []⟩
  · -- neither the fields nor any other layer has the key
    have hnames : .text kind.collection ∉
        (namesContext (some (g.aggregateNames a.name))).map (·.1) := by
      show Data.text kind.collection ∉ [.text "className", .text "fileName"]
      cases kind <;> simp [Kind.collection, Kind.text]
    have hfields : .text kind.collection ∉ a.fields.map (·.1) := by
      intro hm
      obtain ⟨x, hx, heq⟩ := List.mem_map.mp hm
      have hno := hplain x hx
      have hyes : isCollectionKey (.text kind.collection) = true :=
        List.contains_iff_mem.mpr kind.collection_mem
      rw [heq, hyes] at hno
      cases hno
    rw [Entries.get?_update_of_not_mem (g.not_mem_collectionLayer hkind),
      Entries.get?_update_of_not_mem hnames, Entries.get?_update_of_not_mem hfields]
    cases kind <;> rfl

variable {g}

/-- One more entry hides nothing of the aggregate. -/
theorem SummarizesAggregate.set {a : Aggregate} {more : List String} {c : Entries}
    (h : g.SummarizesAggregate a more c) {s : String} (v : Data) (hmore : s ∈ more)
    (hfree : s ∉ namedKeys a.defaults) (hcollection : s ∉ collectionKeys) :
    g.SummarizesAggregate a more (c.set s v) := by
  have hkept : ∀ kind : Kind, (c.set s v).get? kind.collection = c.get? kind.collection := by
    intro kind
    refine Entries.get?_set_other c v fun heq => ?_
    exact hcollection (heq ▸ kind.collection_mem)
  refine ⟨h.carries.set v (List.mem_append_right _ hmore) hfree, fun x hx => ?_,
    fun kind hkind => ?_⟩
  · rw [hkept]
    exact h.declared x hx
  · rw [hkept]
    exact h.undeclared kind hkind

end Generator

end DomainGen
