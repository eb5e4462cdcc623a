import DomainGen.Proofs.Generation.Calls

/-!
# What the indexes of a walk list

The index of a kind is rendered from what was registered on the way, long after the files of the
entities were handed over. Its template is nevertheless given exactly these files: the registry holds
one registration for each of them, in the order in which they came.

* `indexEntry`, `Generator.kindIndexContext`, `Generator.rootIndexContext` : what templates of indexes
  are given, read off the files that were handed over;
* `exists_emitted` : the files of entities are those of the entities of the model, in order;
* `generate_indexes` : **the indexes list the files that were handed over**, and there is an index for
  each listed kind and for no other.
-/

namespace DomainGen

/-! ## 1. What an index is to list -/

/-- What an index lists of the file of an entity: the class in it, the name the entity was given for
    it, and where it lies. -/
def indexEntry (x : Entity × GeneratedFile) : Data :=
  .mapping (Entries.ofFields [("className", .ofOption x.2.className),
    ("fileName", .ofOption (x.1.names.map Names.fileName)), ("fullPath", .text x.2.path)])

namespace Generator

variable (g : Generator)

/-- What the template of the index of a kind is to be given after some files of entities. -/
def kindIndexContext (emitted : List (Entity × GeneratedFile)) (kind : Kind) : Entries :=
  Entries.ofFields [("kind", .text kind.text), ("folder", .text (g.kindFolder kind)),
    ("items", .list ((emitted.filter (·.1.kind == kind)).map indexEntry))]

/-- What the template of the index of the kinds is to be given. -/
def rootIndexContext (kinds : List Kind) : Entries :=
  Entries.ofFields [("items", .list (kinds.map fun kind => .mapping (Entries.ofFields
    [("className", .text kind.text), ("fileName", .text (g.kindFolder kind))])))]

end Generator

/-- Is it an entity? -/
def Item.isEntity : Item → Bool
  | .entity .. => true
  | _ => false

/-- The kind an item is the index of. -/
def Item.indexedKind? : Item → Option Kind
  | .kindIndex kind => some kind
  | _ => none

/-! ## 2. The files of entities -/

section Layout

variable (g : Generator) (m : Model)

/-- The entities of a named model. -/
theorem entities_decorated : (g.decorated m).entities = m.entities.map g.decoratedEntity := by
  unfold Model.entities Generator.decorated
  rw [List.flatMap_map, List.map_flatMap]
  congr 1
  funext a
  exact g.entities_decoratedAggregate a

/-- The slot of an entity, read off its names. -/
def entitySlot (x : Entity) : FileSlot :=
  (x.item, .ok (g.entityPath x), some (g.namesOf x).className)

/-- Among the slots of the layout those of entities are the ones of the entities of the model. -/
theorem filter_layout :
    (g.layout m).filter (·.1.isEntity) = m.entities.map (entitySlot g) := by
  have hitems : (m.aggregates.flatMap g.aggregateSlots).filter (·.1.isEntity) =
      m.entities.map (entitySlot g) := by
    unfold Model.entities
    rw [List.filter_flatMap, List.map_flatMap]
    congr 1
    funext a
    unfold Generator.aggregateSlots
    rw [List.filter_cons_of_neg Bool.false_ne_true]
    refine List.filter_eq_self.mpr fun slot hslot => ?_
    obtain ⟨x, _, rfl⟩ := List.mem_map.mp hslot
    rfl
  have hkinds : (m.populatedKinds.map g.kindIndexSlot).filter (·.1.isEntity) = [] := by
    refine List.filter_eq_nil_iff.mpr fun slot hslot => ?_
    obtain ⟨kind, _, rfl⟩ := List.mem_map.mp hslot
    exact Bool.false_ne_true
  have hroot : (g.rootIndexSlots m).filter (·.1.isEntity) = [] := by
    refine List.filter_eq_nil_iff.mpr fun slot hslot => ?_
    obtain ⟨_, rfl⟩ := g.mem_rootIndexSlots.mp hslot
    exact Bool.false_ne_true
  unfold Generator.layout
  rw [List.filter_append, List.filter_append, hitems, hkinds, hroot, List.append_nil,
    List.append_nil]

/-- The kinds that the layout has indexes of are the populated ones. -/
theorem filterMap_layout :
    (g.layout m).filterMap (fun slot => slot.1.indexedKind?) = m.populatedKinds := by
  have hitems : (m.aggregates.flatMap g.aggregateSlots).filterMap
      (fun slot => slot.1.indexedKind?) = [] := by
    refine List.filterMap_eq_nil_iff.mpr fun slot hslot => ?_
    obtain ⟨a, _, hslot⟩ := List.mem_flatMap.mp hslot
    rcases List.mem_cons.mp hslot with rfl | hslot
    · rfl
    · obtain ⟨x, _, rfl⟩ := List.mem_map.mp hslot
      rfl
  have hroot : (g.rootIndexSlots m).filterMap (fun slot => slot.1.indexedKind?) = [] := by
    refine List.filterMap_eq_nil_iff.mpr fun slot hslot => ?_
    obtain ⟨_, rfl⟩ := g.mem_rootIndexSlots.mp hslot
    rfl
  unfold Generator.layout
  rw [List.filterMap_append, List.filterMap_append, hitems, hroot, List.append_nil, List.nil_append,
    List.filterMap_map]
  exact List.filterMap_some

end Layout

/-- Two lists with the same images can be read as one list of pairs. -/
theorem exists_pairs {α β γ : Type} {f : α → γ} {f' : β → γ} : ∀ {xs : List α} {ys : List β},
    xs.map f = ys.map f' →
      ∃ zs : List (α × β), zs.map (·.1) = xs ∧ zs.map (·.2) = ys ∧ ∀ z ∈ zs, f z.1 = f' z.2
  | [], [], _ => ⟨[], rfl, rfl, fun z hz => absurd hz List.not_mem_nil⟩
  | x :: xs, y :: ys, h => by
      rw [List.map_cons, List.map_cons, List.cons.injEq] at h
      obtain ⟨zs, hxs, hys, hall⟩ := exists_pairs h.2
      refine ⟨(x, y) :: zs, congrArg (x :: ·) hxs, congrArg (y :: ·) hys, fun z hz => ?_⟩
      rcases List.mem_cons.mp hz with rfl | hz
      · exact h.1
      · exact hall z hz

variable {g : Generator} {m : Model}

/-- An index lists a file with the names and the path of its entity as it was registered. -/
theorem indexEntry_eq {x : Entity × GeneratedFile} (hnames : x.1.names = some (g.namesOf x.1))
    (hclass : x.2.className = some (g.namesOf x.1).className)
    (hpath : x.2.path = g.entityPath x.1) :
    indexEntry x = (g.registration x.1).2.context := by
  simp only [indexEntry, CollectionItem.context, Generator.registration, hnames, hclass, hpath,
    Option.map_some, Data.ofOption]

/-- **The files of entities are those of the entities of the model**, in order, and an index lists
    them by the names of the entities. -/
theorem exists_emitted {placed : List (Item × GeneratedFile)}
    (h : placed.map slotOf = g.layout m) :
    ∃ emitted : List (Entity × GeneratedFile), emitted.map (·.1) = (g.decorated m).entities ∧
      emitted.map (fun x => (x.1.item, x.2)) = placed.filter (·.1.isEntity) ∧
      ∀ x ∈ emitted, indexEntry x = (g.registration x.1).2.context := by
  have hslots : (g.decorated m).entities.map (entitySlot g) =
      (placed.filter (·.1.isEntity)).map slotOf := by
    have hfilter : (placed.filter (·.1.isEntity)).map slotOf =
        (placed.map slotOf).filter (·.1.isEntity) := by
      rw [List.filter_map]
      rfl
    rw [hfilter, h, filter_layout, entities_decorated, List.map_map]
    rfl
  obtain ⟨zs, hxs, hys, hall⟩ := exists_pairs hslots
  refine ⟨zs.map fun z => (z.1, z.2.2), ?_, ?_, fun x hx => ?_⟩
  · rw [List.map_map]
    exact hxs
  · rw [List.map_map, ← hys]
    refine List.map_congr_left fun z hz => ?_
    have hitem : z.1.item = z.2.1 := congrArg (·.1) (hall z hz)
    show (z.1.item, z.2.2) = z.2
    rw [hitem]
  · obtain ⟨z, hz, rfl⟩ := List.mem_map.mp hx
    have hpath : g.entityPath z.1 = z.2.2.path :=
      Except.ok.inj (congrArg (fun slot : FileSlot => slot.2.1) (hall z hz))
    have hclass : some (g.namesOf z.1).className = z.2.2.className :=
      congrArg (fun slot : FileSlot => slot.2.2) (hall z hz)
    have hnames : z.1.names = some (g.namesOf z.1) := by
      have hmem : z.1 ∈ (g.decorated m).entities := hxs ▸ List.mem_map_of_mem hz
      rw [entities_decorated] at hmem
      obtain ⟨x, _, heq⟩ := List.mem_map.mp hmem
      rw [← heq]
      rfl
    exact indexEntry_eq hnames hclass.symm hpath.symm

/-! ## 3. The contexts of indexes -/

/-- A planned index of a kind is that of the group of the kind. -/
theorem eq_kindIndexFile {f : PlannedFile} (h : f ∈ g.plannedFiles m) {kind : Kind}
    (hitem : f.item = .kindIndex kind) : f = g.kindIndexFile
      (Registry.group g.kindFolder (m.entities.map g.registration) kind) := by
  rcases Generator.mem_plannedFiles h with ⟨a, _, rfl⟩ | ⟨x, _, _, rfl⟩ | ⟨c, hc, rfl⟩ | rfl
  · cases hitem
  · cases hitem
  · rw [g.collections_registryOf] at hc
    obtain ⟨k, _, rfl⟩ := List.mem_map.mp hc
    cases hitem
    rfl
  · cases hitem

/-- A planned index of the kinds is that of the groups. -/
theorem eq_rootIndexFile {f : PlannedFile} (h : f ∈ g.plannedFiles m) (hitem : f.item = .rootIndex) :
    f = g.rootIndexFile (g.registryOf m.entities).collections := by
  rcases Generator.mem_plannedFiles h with ⟨a, _, rfl⟩ | ⟨x, _, _, rfl⟩ | ⟨c, hc, rfl⟩ | rfl
  · cases hitem
  · cases hitem
  · cases hitem
  · rfl

/-- The index of the kinds lists the populated ones. -/
theorem context_rootIndex : Generator.rootContext (g.registryOf m.entities).collections =
    g.rootIndexContext m.populatedKinds := by
  unfold Generator.rootContext Generator.rootIndexContext
  rw [g.collections_registryOf, List.map_map]
  rfl

/-- The group of a kind lists the files of the entities of the kind. -/
theorem context_group {emitted : List (Entity × GeneratedFile)}
    (hentities : emitted.map (·.1) = (g.decorated m).entities)
    (hentries : ∀ x ∈ emitted, indexEntry x = (g.registration x.1).2.context) (kind : Kind) :
    (Registry.group g.kindFolder (m.entities.map g.registration) kind).context =
      g.kindIndexContext emitted kind := by
  have hregistered : m.entities.map g.registration =
      emitted.map fun x => g.registration x.1 := by
    have hnamed : m.entities.map g.registration =
        (g.decorated m).entities.map g.registration := by
      rw [entities_decorated, List.map_map]
      rfl
    rw [hnamed, ← hentities, List.map_map]
    rfl
  have hitems : (Registry.itemsAmong (m.entities.map g.registration) kind).map
      CollectionItem.context = (emitted.filter (·.1.kind == kind)).map indexEntry := by
    unfold Registry.itemsAmong
    rw [hregistered, List.filter_map, List.map_map, List.map_map]
    refine List.map_congr_left fun x hx => ?_
    exact (hentries x (List.mem_of_mem_filter hx)).symm
  show Entries.ofFields [_, _, ("items", .list ((Registry.itemsAmong
    (m.entities.map g.registration) kind).map CollectionItem.context))] = _
  rw [hitems]
  rfl

/-- Where kinds are populated there is an index of them. -/
theorem Generator.rootIndexSlot_mem_layout (g : Generator) (h : m.populatedKinds ≠ []) :
    (.rootIndex, (joinParts [g.config.rootModuleName]).mapError .fault, none) ∈ g.layout m :=
  List.mem_append_right _ (g.mem_rootIndexSlots.mpr ⟨g.hasRootIndex_of_populated h, rfl⟩)

/-- Each populated kind has an index. -/
theorem Generator.kindIndexSlot_mem_layout (g : Generator) {kind : Kind}
    (h : kind ∈ m.populatedKinds) : g.kindIndexSlot kind ∈ g.layout m :=
  List.mem_append_left _ (List.mem_append_right _ (List.mem_map_of_mem h))

/-! ## 4. Main result -/

variable {ρ σ : Type} {render : Renderer ρ} {sink : Sink σ}

/-- **The indexes of a successful walk list the files that were handed over.** There is one call for
    each file. The files of entities are those of the named model, in order; the template of the index
    of a kind is given exactly these files of the kind, its own name and its folder; the template of
    the index of the kinds is given the kinds that have files, as they were first met; and these are
    the kinds that have an index. -/
theorem generate_indexes (g : Generator) {document : Data} {source : Option String}
    (h : Model.ofDocument document source = .ok m) {e : ρ} {s : σ} {gen : Generated}
    (hgen : (g.generate render sink m e s).outcome = .ok gen) :
    ∃ (placed : List (Item × GeneratedFile)) (emitted : List (Entity × GeneratedFile)),
      gen.files = placed.map (·.2) ∧
      (g.calls render sink m e s).length = placed.length ∧
      emitted.map (·.1) = (g.generate render sink m e s).model.entities ∧
      emitted.map (fun x => (x.1.item, x.2)) = placed.filter (·.1.isEntity) ∧
      placed.filterMap (·.1.indexedKind?) = kindsMet (·.1.kind) emitted ∧
      (∀ (i : Nat) (kind : Kind) (file : GeneratedFile), placed[i]? = some (.kindIndex kind, file) →
        ∃ call, (g.calls render sink m e s)[i]? = some call ∧
          g.config.templateFor subModuleRole = .ok call.template ∧
          call.context = g.kindIndexContext emitted kind) ∧
      (∀ (i : Nat) (file : GeneratedFile), placed[i]? = some (.rootIndex, file) →
        ∃ call, (g.calls render sink m e s)[i]? = some call ∧
          g.config.templateFor rootModuleRole = .ok call.template ∧
          call.context = g.rootIndexContext (kindsMet (·.1.kind) emitted)) ∧
      (kindsMet (·.1.kind) emitted ≠ [] → ∃ file, (.rootIndex, file) ∈ placed) := by
  have hf := fresh_ofDocument h
  obtain ⟨placed, hfiles, hslots, hlength, hrendered⟩ := generate_rendered g hf hgen
  obtain ⟨emitted, hentities, hemitted, hentries⟩ := exists_emitted hslots
  have hkinds : kindsMet (·.1.kind) emitted = m.populatedKinds := by
    have hmap : emitted.map (·.1.kind) = m.entities.map (·.kind) := by
      have hnamed : (emitted.map (·.1)).map Entity.kind = (m.entities.map (·.kind)) := by
        rw [hentities, entities_decorated, List.map_map]
        rfl
      rw [← hnamed, List.map_map]
      rfl
    unfold Model.populatedKinds kindsMet
    rw [hmap]
  have hmodel : (g.generate render sink m e s).model = g.decorated m := by
    rw [generate_eq_takeSteps g render sink hf]
  refine ⟨placed, emitted, hfiles, hlength, ?_, hemitted, ?_, fun i kind file hi => ?_,
    fun i file hi => ?_, fun hsome => ?_⟩
  · rw [hmodel]
    exact hentities
  · rw [hkinds, ← filterMap_layout g m, ← hslots, List.filterMap_map]
    rfl
  · obtain ⟨f, hf, hitem, _, call, hcall, htemplate, hcontext, _⟩ := hrendered i _ file hi
    rw [eq_kindIndexFile hf hitem] at htemplate hcontext
    refine ⟨call, hcall, htemplate, hcontext.symm.trans ?_⟩
    exact context_group hentities hentries kind
  · obtain ⟨f, hf, hitem, _, call, hcall, htemplate, hcontext, _⟩ := hrendered i _ file hi
    rw [eq_rootIndexFile hf hitem] at htemplate hcontext
    refine ⟨call, hcall, htemplate, hcontext.symm.trans ?_⟩
    rw [hkinds]
    exact context_rootIndex
  · rw [hkinds] at hsome
    obtain ⟨file, hfile, _⟩ := exists_placed hslots (g.rootIndexSlot_mem_layout hsome)
    exact ⟨file, hfile⟩

theorem generate_indexes_orders : ∃ (gen : Generated) (placed : List (Item × GeneratedFile)),
    (plainGenerator.generate countingRenderer memorySink orders 0 []).outcome = .ok gen ∧
      gen.files = placed.map (·.2) ∧
      (plainGenerator.calls countingRenderer memorySink orders 0 []).length = placed.length ∧
      placed.filterMap (·.1.indexedKind?) = [.event, .command] ∧
      ∃ file, (.rootIndex, file) ∈ placed := by
  obtain ⟨gen, hgen⟩ : ∃ gen, (plainGenerator.generate countingRenderer memorySink orders 0
      []).outcome = .ok gen := exists_ok_of_isSome (by decide +kernel)
  obtain ⟨placed, emitted, hfiles, hlength, hentities, _, hindexed, _, _, hroot⟩ :=
    generate_indexes plainGenerator ofDocument_orders hgen
  have hkinds : kindsMet (·.1.kind) emitted = [.event, .command] := by
    have hmap : (emitted.map (·.1)).map Entity.kind = [.event, .command] := by
      rw [hentities]
      decide +kernel
    rw [List.map_map] at hmap
    show (emitted.map (Entity.kind ∘ (·.1))).eraseDups = _
    rw [hmap]
    rfl
  rw [hkinds] at hindexed hroot
  exact ⟨gen, placed, hgen, hfiles, hlength, hindexed, hroot (by decide)⟩

end DomainGen
