import DomainGen.Proofs.Generation.Interruption
import DomainGen.Proofs.Generation.Warned
import DomainGen.Proofs.Naming.Avoidance
import DomainGen.Proofs.Path.Spelling

/-!
# Collisions of indexes

Whether two indexes collide is decided by the settings, not by the models: the indexes of two kinds
have one path if their folders are one folder in two spellings, or if the name of indexes is an
absolute path, which leaves nothing of a folder in front of it.

* `Generator.Merging` : these two cases; `kindIndexPath_eq_iff` : **they are the only ones**;
* `slots_of_collision` : a walk that ends in a collision has both files to write at one path;
  `indexes_of_collision`, `merging_of_indexes` : what that says about two indexes;
* `Generator.Renderable`, `exists_renderSteps` : plans that can be rendered whatever the model is;
* `exists_collision` : **there is a model whose walk ends in the collision of two merging kinds**.
-/

namespace DomainGen

/-! ## 1. Paths of indexes -/

namespace Generator

variable (g : Generator)

/-- Two kinds have one folder in two spellings, or the name of their indexes is an absolute path. -/
def Merging (k k' : Kind) : Prop :=
  Path.ofString (g.kindFolder k) = Path.ofString (g.kindFolder k') ∨
    ∃ name, g.config.subModuleName = .text name ∧ (Path.ofString name).isAbsolute = true

variable {g} {k k' : Kind} {path : String}

/-- **The indexes of two kinds have one path exactly if the kinds are merging.** -/
theorem kindIndexPath_eq_iff (h : g.kindIndexPath k = .ok path) :
    g.kindIndexPath k' = .ok path ↔ g.Merging k k' := by
  unfold kindIndexPath at h ⊢
  rw [joinParts_folder] at h ⊢
  unfold Merging
  cases hpart : g.config.subModuleName.part? with
  | none =>
      rw [hpart] at h
      cases h
  | some name =>
      rw [hpart] at h
      obtain rfl := Except.ok.inj h
      have hname : (∃ s, g.config.subModuleName = .text s ∧ (Path.ofString s).isAbsolute = true) ↔
          (Path.ofString name).isAbsolute = true := by
        unfold Data.part? at hpart
        split at hpart
        · cases htext : g.config.subModuleName <;> rw [htext] at hpart <;> cases hpart
          exact ⟨fun ⟨_, heq, ha⟩ => Data.text.inj heq ▸ ha, fun ha => ⟨name, rfl, ha⟩⟩
        · rename_i hfalse
          cases hpart
          refine ⟨fun ⟨s, heq, ha⟩ => ?_, fun ha => absurd ha (by decide)⟩
          rw [heq] at hfalse
          have hs : s = "" := by
            have hne : ¬ (s != "") = true := hfalse
            simpa using hne
          exact hs ▸ ha
      rw [hname, Except.ok.injEq, eq_comm]
      exact joinPath_eq_iff

end Generator

/-! ## 2. Where a collision comes from -/

/-- What renders does not report collisions itself. -/
def Renderer.NoCollisions {ρ : Type} (render : Renderer ρ) : Prop :=
  ∀ e template context c, (render e template context).2 ≠ .error (.collision c)

section Walks

variable {ρ σ : Type} {render : Renderer ρ} {sink : Sink σ} {g : Generator} {m : Model}
  {clash : Collision}

/-- **A walk that ends in a collision has two files to write at its path**, for the items that the
    collision names. -/
theorem slots_of_collision (hf : m.Fresh) (hrender : render.NoCollisions) {e : ρ} {s : σ}
    (ho : (g.generate render sink m e s).outcome = .error (.collision clash)) :
    ∃ before first second after, g.layout m = before ++ second :: after ∧ first ∈ before ∧
      first.1 = clash.first ∧ first.2.1 = .ok clash.path ∧
      second.1 = clash.second ∧ second.2.1 = .ok clash.path := by
  obtain ⟨done, st, rest, p, q, hplan, hdone, hst⟩ := (outcome_error_iff g hf e s _).mp ho
  rcases failing_step hplan hst with ⟨f, hmem, rfl⟩ | hmissing
  · have hfrom := plannedFiles_fromSettings g m f hmem
    generalize hproblem : some (Failure.collision clash) = problem at hst
    cases stepResult_of_eq hst with
    | unrendered hr =>
        cases hproblem
        rcases rendered_error hfrom (congrArg Prod.snd hr) with hsettings | ⟨t, x, hx⟩
        · cases hsettings
        · exact absurd hx (hrender p.engine t x clash)
    | taken hr howner =>
        cases hproblem
        obtain ⟨x, hx, hpath, hitem⟩ := owner?_eq_some howner
        obtain ⟨placed, hplaced, hp⟩ := takeSteps_rendered hdone
        -- the layout is cut where the plan is
        have hlayout : g.layout m = placed.map slotOf ++
            f.slot :: (rest.filterMap PlanStep.file?).map PlannedFile.slot := by
          rw [← g.slots_plan m, hplan, List.filterMap_append, List.map_append,
            layout_rendered hplaced]
          rfl
        have hmemPlaced : x ∈ placed := by
          have hstart : p.placed = placed := hp
          exact hstart ▸ hx
        refine ⟨_, slotOf x, f.slot, _, hlayout, List.mem_map_of_mem hmemPlaced, hitem, ?_, rfl,
          (rendered_eq_ok hr).1⟩
        exact congrArg Except.ok hpath
    | refused => cases hproblem
    | accepted => cases hproblem
  · cases templateFor_error hmissing

/-! ## 3. Collisions of indexes -/

/-- Is it an index? -/
def Item.isIndex : Item → Bool
  | kindIndex _ => true
  | rootIndex => true
  | _ => false

/-- Where an index goes, if it is one and the settings give a path. -/
def Generator.indexPath? (g : Generator) : Item → Option (Except Fault String)
  | .kindIndex k => some (g.kindIndexPath k)
  | .rootIndex => some g.rootIndexPath
  | _ => none

theorem Model.nodup_populatedKinds (m : Model) : m.populatedKinds.Nodup :=
  nodup_kindsMet _ m.entities

/-- The slots of indexes stand at the end of the layout. -/
theorem Generator.indexSlots (g : Generator) (m : Model) :
    (g.layout m).filter (·.1.isIndex) =
      m.populatedKinds.map g.kindIndexSlot ++ g.rootIndexSlots m := by
  have hitems : (m.aggregates.flatMap g.aggregateSlots).filter (·.1.isIndex) = [] := by
    rw [List.filter_eq_nil_iff]
    intro slot hslot
    obtain ⟨a, _, hslot⟩ := List.mem_flatMap.mp hslot
    rcases List.mem_cons.mp hslot with rfl | hslot
    · exact Bool.false_ne_true
    · obtain ⟨x, _, rfl⟩ := List.mem_map.mp hslot
      exact Bool.false_ne_true
  have hindexes : ∀ slot ∈ m.populatedKinds.map g.kindIndexSlot ++ g.rootIndexSlots m,
      slot.1.isIndex = true := by
    intro slot hslot
    rcases List.mem_append.mp hslot with hslot | hslot
    · obtain ⟨k, _, rfl⟩ := List.mem_map.mp hslot
      rfl
    · obtain ⟨_, rfl⟩ := g.mem_rootIndexSlots.mp hslot
      rfl
  unfold layout
  rw [List.append_assoc, List.filter_append, hitems, List.nil_append,
    List.filter_eq_self.mpr hindexes]

/-- Every index is written once. -/
theorem Generator.nodup_indexSlots (g : Generator) (m : Model) :
    (((g.layout m).filter (·.1.isIndex)).map (·.1)).Nodup := by
  rw [g.indexSlots m, List.map_append, List.map_map, List.nodup_append]
  refine ⟨m.nodup_populatedKinds.map fun _ _ h => Item.kindIndex.inj h, ?_, ?_⟩
  · unfold rootIndexSlots
    split
    · exact List.nodup_singleton _
    · exact List.nodup_nil
  · intro x hx y hy hxy
    obtain ⟨k, _, rfl⟩ := List.mem_map.mp hx
    obtain ⟨slot, hslot, rfl⟩ := List.mem_map.mp hy
    obtain ⟨_, rfl⟩ := g.mem_rootIndexSlots.mp hslot
    cases hxy

/-- A slot of an index has the path of the index. -/
theorem Generator.indexPath?_of_slot {slot : FileSlot} (hslot : slot ∈ g.layout m)
    (hindex : slot.1.isIndex = true) {path : String} (hpath : slot.2.1 = .ok path) :
    g.indexPath? slot.1 = some (.ok path) := by
  have hmem : slot ∈ (g.layout m).filter (·.1.isIndex) := List.mem_filter.mpr ⟨hslot, hindex⟩
  rw [g.indexSlots m] at hmem
  rcases List.mem_append.mp hmem with hmem | hmem
  · obtain ⟨k, _, rfl⟩ := List.mem_map.mp hmem
    exact congrArg some (except_mapError_eq_ok.mp hpath)
  · obtain ⟨_, rfl⟩ := g.mem_rootIndexSlots.mp hmem
    exact congrArg some (except_mapError_eq_ok.mp hpath)

/-- **Two indexes that collide are two different ones, and both of them go to the path of the
    collision.** -/
theorem indexes_of_collision (hf : m.Fresh) (hrender : render.NoCollisions) {e : ρ} {s : σ}
    (ho : (g.generate render sink m e s).outcome = .error (.collision clash))
    (hfirst : clash.first.isIndex = true) (hsecond : clash.second.isIndex = true) :
    clash.first ≠ clash.second ∧ g.indexPath? clash.first = some (.ok clash.path) ∧
      g.indexPath? clash.second = some (.ok clash.path) := by
  obtain ⟨before, first, second, after, hlayout, hmem, hitem, hpath, hitem', hpath'⟩ :=
    slots_of_collision hf hrender ho
  rw [← hitem] at hfirst ⊢
  rw [← hitem'] at hsecond ⊢
  have hin : first ∈ g.layout m := hlayout ▸ List.mem_append_left _ hmem
  have hin' : second ∈ g.layout m := hlayout ▸ List.mem_append_right _ List.mem_cons_self
  refine ⟨fun heq => ?_, g.indexPath?_of_slot hin hfirst hpath,
    g.indexPath?_of_slot hin' hsecond hpath'⟩
  have hn := g.nodup_indexSlots m
  rw [hlayout, List.filter_append,
    List.filter_cons_of_pos (p := fun slot : FileSlot => slot.1.isIndex) hsecond, List.map_append,
    List.nodup_append] at hn
  refine hn.2.2 first.1 ?_ second.1 (List.mem_map_of_mem List.mem_cons_self) heq
  exact List.mem_map_of_mem (List.mem_filter.mpr ⟨hmem, hfirst⟩)

end Walks

/-- **Two different indexes with one path are those of merging kinds**, or the index of some kind has
    the path of the index of the kinds. -/
theorem Generator.merging_of_indexes {g : Generator} {first second : Item} {path : String}
    (hne : first ≠ second) (hfirst : g.indexPath? first = some (.ok path))
    (hsecond : g.indexPath? second = some (.ok path)) :
    (∃ k k', k ≠ k' ∧ g.Merging k k' ∧ g.kindIndexPath k = .ok path ∧
      first = .kindIndex k ∧ second = .kindIndex k') ∨ ∃ k, g.Clashing k none := by
  cases first with
  | aggregate => cases hfirst
  | entity => cases hfirst
  | kindIndex k =>
      have hk : g.kindIndexPath k = .ok path := Option.some.inj hfirst
      cases second with
      | aggregate => cases hsecond
      | entity => cases hsecond
      | kindIndex k' =>
          have hdiffer : k ≠ k' := fun h => hne (congrArg Item.kindIndex h)
          have hmerging := (kindIndexPath_eq_iff hk).mp (Option.some.inj hsecond)
          exact Or.inl ⟨k, k', hdiffer, hmerging, hk, rfl, rfl⟩
      | rootIndex => exact Or.inr ⟨k, path, hk, Option.some.inj hsecond⟩
  | rootIndex =>
      cases second with
      | aggregate => cases hsecond
      | entity => cases hsecond
      | kindIndex k' => exact Or.inr ⟨k', path, Option.some.inj hsecond, Option.some.inj hfirst⟩
      | rootIndex => exact absurd rfl hne

/-! ## 4. Plans that can be rendered -/

/-- What renders never fails. -/
def Renderer.Total {ρ : Type} (render : Renderer ρ) : Prop :=
  ∀ e template context, ∃ text, (render e template context).2 = .ok text

/-- The settings give a template or a template and a path for a step. -/
def PlanStep.Ready : PlanStep → Prop
  | .lookup t => ∃ x, t = .ok x
  | .file f => (∃ t, f.template = .ok t) ∧ ∃ path, f.path = .ok path

/-- The settings give all templates and the paths of all indexes. -/
structure Generator.Renderable (g : Generator) : Prop where
  templates : ∀ role ∈ templateRoles, ∃ t, g.config.templateFor role = .ok t
  indexes : ∀ k, ∃ path, g.kindIndexPath k = .ok path
  root : ∃ path, g.rootIndexPath = .ok path

theorem Generator.Renderable.ready {g : Generator} (hg : g.Renderable) (m : Model) :
    ∀ st ∈ g.plan m, st.Ready := by
  intro st hst
  rcases g.mem_plan hst with ⟨f, hf, rfl⟩ | rfl
  · rcases g.mem_plannedFiles hf with ⟨a, _, rfl⟩ | ⟨x, _, context, rfl⟩ | ⟨c, hc, rfl⟩ | rfl
    · exact ⟨hg.templates _ (by decide), _, rfl⟩
    · refine ⟨hg.templates _ ?_, _, rfl⟩
      generalize x.kind = k
      cases k <;> decide
    · rw [g.collections_registryOf m] at hc
      obtain ⟨k, _, rfl⟩ := List.mem_map.mp hc
      obtain ⟨path, hpath⟩ := hg.indexes k
      exact ⟨hg.templates _ (by decide), path, except_mapError_eq_ok.mpr hpath⟩
    · obtain ⟨path, hpath⟩ := hg.root
      exact ⟨hg.templates _ (by decide), path, except_mapError_eq_ok.mpr hpath⟩
  · exact hg.templates _ (by decide)

section Rendering

variable {ρ : Type} {render : Renderer ρ}

theorem rendered_ready (hr : render.Total) {f : PlannedFile} (hf : (PlanStep.file f).Ready)
    (e : ρ) : ∃ e' file, f.rendered render e = (e', .ok file) := by
  obtain ⟨⟨t, ht⟩, path, hpath⟩ := hf
  obtain ⟨text, htext⟩ := hr e t f.context
  refine ⟨(render e t f.context).1, ⟨path, text, f.className⟩, ?_⟩
  have hrender : render e t f.context = ((render e t f.context).1, .ok text) := Prod.ext rfl htext
  exact rendered_eq_iff.mpr (.rendered ht hrender hpath)

/-- Steps that are ready can all be rendered. -/
theorem exists_renderSteps (hr : render.Total) : ∀ (steps : List PlanStep) (e : ρ),
    (∀ st ∈ steps, st.Ready) → ∃ placed, renderSteps render e steps = .ok placed
  | [], _, _ => ⟨[], rfl⟩
  | .lookup t :: rest, e, h => by
      obtain ⟨x, rfl⟩ := h _ List.mem_cons_self
      exact exists_renderSteps hr rest e fun st hst => h st (List.mem_cons_of_mem _ hst)
  | .file f :: rest, e, h => by
      obtain ⟨e', file, hfile⟩ := rendered_ready hr (h _ List.mem_cons_self) e
      obtain ⟨others, hothers⟩ := exists_renderSteps hr rest e'
        fun st hst => h st (List.mem_cons_of_mem _ hst)
      refine ⟨(f.item, file) :: others, ?_⟩
      simp only [renderSteps, hfile, hothers, Except.map]

end Rendering

/-- Where the slots of some files repeat a path first, the files do. -/
theorem firstRepeat_of_slots {placed : List (Item × GeneratedFile)} {before after : List FileSlot}
    {first second : FileSlot} {path : String} (h : placed.map slotOf = before ++ second :: after)
    (hn : (before.map (·.2.1)).Nodup) (hmem : first ∈ before) (hpath : first.2.1 = .ok path)
    (hpath' : second.2.1 = .ok path) : FirstRepeat placed ⟨path, first.1, second.1⟩ := by
  obtain ⟨earlier, later, rfl, rfl, hlater⟩ := List.map_eq_append_iff.mp h
  obtain ⟨y, others, rfl, rfl, _⟩ := List.map_eq_cons_iff.mp hlater
  obtain ⟨x, hx, rfl⟩ := List.mem_map.mp hmem
  have hy : y.2.path = path := Except.ok.inj hpath'
  have hxy : x.2.path = y.2.path := (Except.ok.inj hpath).trans hy.symm
  refine ⟨earlier, y, others, rfl, nodup_slots_iff.mp hn, x, hx, hxy, ?_⟩
  rw [hy]
  rfl

/-! ## 5. A model with a collision of indexes -/

/-- What a document says about an aggregate with one entity. -/
def loneBody (k : Kind) (x : String) : Data :=
  .mapping [(.text k.collection, .mapping [(.text x, .null)])]

/-- An aggregate with one entity. -/
def loneAggregate (k : Kind) (a x : String) : Aggregate :=
  ⟨a, [], [(k, [⟨k, x, a, [], none⟩])], none⟩

/-- A document with two such aggregates. -/
def pairDocument (k k' : Kind) (a x a' x' : String) : Data :=
  .mapping [(.text "aggregates",
    .mapping [(.text a, loneBody k x), (.text a', loneBody k' x')])]

/-- The model of the document. -/
def pairModel (k k' : Kind) (a x a' x' : String) : Model :=
  ⟨[loneAggregate k a x, loneAggregate k' a' x'], [], none⟩

section Pair

variable {k k' : Kind} {a x a' x' : String}

theorem readAggregate_lone (k : Kind) (a x : String) :
    readAggregate a (loneBody k x) = .ok (loneAggregate k a x) := by
  cases k <;> rfl

theorem entities_lone (k : Kind) (a x : String) :
    (loneAggregate k a x).entities = [⟨k, x, a, [], none⟩] := by
  cases k <;> rfl

/-- Its own path and that of its entity. -/
theorem paths_lone (g : Generator) (k : Kind) (a x : String) :
    (g.aggregateSlots (loneAggregate k a x)).map (·.2.1) =
      [.ok (joinPath [g.aggregate.folder, g.aggregate.fileName a none]),
        .ok (joinPath [(g.policyOf k).folder, (g.policyOf k).fileName x (some a)])] := by
  unfold Generator.aggregateSlots
  rw [entities_lone]
  rfl

theorem ofDocument_pair (k k' : Kind) (x x' : String) (hne : a ≠ a') :
    Model.ofDocument (pairDocument k k' a x a' x') none = .ok (pairModel k k' a x a' x') := by
  have hput : putByKey Aggregate.name (loneAggregate k' a' x') [loneAggregate k a x] =
      [loneAggregate k a x, loneAggregate k' a' x'] := by
    have hkeys : ((loneAggregate k a x).name == (loneAggregate k' a' x').name) = false :=
      beq_eq_false_iff_ne.mpr hne
    unfold putByKey
    rw [hkeys]
    rfl
  have hread : readAggregates [(.text a, loneBody k x), (.text a', loneBody k' x')] [] =
      .ok [loneAggregate k a x, loneAggregate k' a' x'] := by
    unfold readAggregates
    refine except_bind_eq_ok.mpr ⟨a, rfl, except_bind_eq_ok.mpr ⟨_, readAggregate_lone k a x, ?_⟩⟩
    unfold readAggregates
    refine except_bind_eq_ok.mpr ⟨a', rfl,
      except_bind_eq_ok.mpr ⟨_, readAggregate_lone k' a' x', ?_⟩⟩
    unfold readAggregates
    exact congrArg Except.ok hput
  exact except_bind_eq_ok.mpr ⟨_, rfl, except_bind_eq_ok.mpr ⟨_, hread, rfl⟩⟩

/-- The layout of the model: two aggregates with their entities, two indexes of kinds, and the index
    of the kinds. -/
theorem layout_pair (g : Generator) (hne : k ≠ k') : g.layout (pairModel k k' a x a' x') =
    (g.aggregateSlots (loneAggregate k a x) ++ g.aggregateSlots (loneAggregate k' a' x') ++
      [g.kindIndexSlot k]) ++
      g.kindIndexSlot k' :: g.rootIndexSlots (pairModel k k' a x a' x') := by
  have hkinds : (pairModel k k' a x a' x').populatedKinds = [k, k'] := by
    have hentities : (pairModel k k' a x a' x').entities =
        [⟨k, x, a, [], none⟩, ⟨k', x', a', [], none⟩] := by
      show (loneAggregate k a x).entities ++ ((loneAggregate k' a' x').entities ++ []) = _
      rw [entities_lone, entities_lone]
      rfl
    unfold Model.populatedKinds kindsMet
    rw [hentities]
    show [k, k'].eraseDups = [k, k']
    cases k <;> cases k' <;> first | rfl | exact absurd rfl hne
  unfold Generator.layout
  rw [hkinds]
  simp [pairModel]

end Pair

/-- **There is a model whose walk ends in the collision of two merging kinds**, whatever renders its
    files, if nothing fails before: the keys of its items avoid the path of the two indexes and each
    other. -/
theorem exists_collision {g : Generator} (hg : g.Renderable) {k k' : Kind} (hne : k ≠ k')
    (hmerging : g.Merging k k') : ∃ document m path, Model.ofDocument document none = .ok m ∧
      g.kindIndexPath k = .ok path ∧
      ∀ {ρ σ : Type} {render : Renderer ρ} {sink : Sink σ}, render.Total → sink.AcceptsAll →
        ∀ e s, (g.generate render sink m e s).outcome =
          .error (.collision ⟨path, .kindIndex k, .kindIndex k'⟩) := by
  obtain ⟨path, hpath⟩ := hg.indexes k
  have hpath' : g.kindIndexPath k' = .ok path := (Generator.kindIndexPath_eq_iff hpath).mpr hmerging
  -- each key avoids the paths of the items before it and that of the indexes
  obtain ⟨a, -, ha⟩ := exists_key_avoiding g.aggregate g.aggregate.folder none [] [path]
  obtain ⟨x, -, hx⟩ := exists_key_avoiding (g.policyOf k) (g.policyOf k).folder (some a) []
    [path, joinPath [g.aggregate.folder, g.aggregate.fileName a none]]
  obtain ⟨a', hkey, ha'⟩ := exists_key_avoiding g.aggregate g.aggregate.folder none [a]
    [path, joinPath [g.aggregate.folder, g.aggregate.fileName a none],
      joinPath [(g.policyOf k).folder, (g.policyOf k).fileName x (some a)]]
  obtain ⟨x', -, hx'⟩ := exists_key_avoiding (g.policyOf k') (g.policyOf k').folder (some a') []
    [path, joinPath [g.aggregate.folder, g.aggregate.fileName a none],
      joinPath [(g.policyOf k).folder, (g.policyOf k).fileName x (some a)],
      joinPath [g.aggregate.folder, g.aggregate.fileName a' none]]
  have hkeys : a ≠ a' := fun h => hkey (List.mem_singleton.mpr h.symm)
  have hm := ofDocument_pair k k' x x' hkeys
  refine ⟨_, _, path, hm, hpath, fun {ρ σ render sink} hr hs e s => ?_⟩
  obtain ⟨placed, hplaced⟩ := exists_renderSteps hr _ e (hg.ready (pairModel k k' a x a' x'))
  have hslots := (layout_rendered hplaced).trans (g.slots_plan _)
  rw [layout_pair g hne] at hslots
  have hslot : (g.kindIndexSlot k).2.1 = .ok path := except_mapError_eq_ok.mpr hpath
  refine (outcome_error_iff_firstRepeat hs g (fresh_ofDocument hm) hplaced s _).mpr
    ⟨_, rfl, firstRepeat_of_slots hslots ?_ (List.mem_append_right _ List.mem_cons_self)
      hslot (except_mapError_eq_ok.mpr hpath')⟩
  have hpaths : (g.aggregateSlots (loneAggregate k a x) ++
      g.aggregateSlots (loneAggregate k' a' x') ++ [g.kindIndexSlot k]).map (·.2.1) =
      [joinPath [g.aggregate.folder, g.aggregate.fileName a none],
        joinPath [(g.policyOf k).folder, (g.policyOf k).fileName x (some a)],
        joinPath [g.aggregate.folder, g.aggregate.fileName a' none],
        joinPath [(g.policyOf k').folder, (g.policyOf k').fileName x' (some a')],
        path].map Except.ok := by
    rw [List.map_append, List.map_append, paths_lone, paths_lone, List.map_singleton, hslot]
    rfl
  rw [hpaths, List.nodup_map_iff fun _ _ h => Except.ok.inj h]
  simp only [List.mem_cons, not_or] at ha hx ha' hx'
  grind

end DomainGen
