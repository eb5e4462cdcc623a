import DomainGen.Proofs.Generation.Completeness
import DomainGen.Proofs.Sink.Acceptance
import Mathlib.Data.List.Flatten

/-!
# What a successful walk lists

A walk that succeeds has handed over the files of the layout, whatever the sink keeps of them. Their
paths are different, and each is joined from texts of the settings and names of items.

* `mem_layout` : **where the paths of the layout come from**; `paths_joined` : all of them are joined
  texts;
* `generate_placed` : **what a successful walk lists** has the slots of the layout, different paths
  and the texts of the plan, and the sink has taken it;
* `nodup_entityPaths` : the entities of a successful walk have different paths;
* `generate_registry` : the registry a successful walk ends with.
-/

namespace DomainGen

variable {ρ σ : Type} {render : Renderer ρ} {sink : Sink σ} {m : Model}

/-! ## 1. Paths of the layout -/

theorem mem_of_mapM_text : ∀ {parts : List Data} {texts : List String},
    parts.mapM Data.text? = some texts → ∀ s ∈ texts, Data.text s ∈ parts
  | [], _, h, s, hs => by
      cases h
      exact absurd hs List.not_mem_nil
  | part :: parts, texts, h, s, hs => by
      rw [List.mapM_cons] at h
      obtain ⟨first, hfirst, h⟩ := Option.bind_eq_some_iff.mp h
      obtain ⟨rest, hrest, h⟩ := Option.bind_eq_some_iff.mp h
      cases h
      rcases List.mem_cons.mp hs with rfl | hs
      · cases part <;> cases hfirst
        exact List.mem_cons_self
      · exact List.mem_cons_of_mem part (mem_of_mapM_text hrest s hs)

/-- What parts are joined to is made of those of them that are texts. -/
theorem joinParts_eq_ok {parts : List Data} {path : String} (h : joinParts parts = .ok path) :
    ∃ texts, path = joinPath texts ∧ ∀ s ∈ texts, Data.text s ∈ parts := by
  unfold joinParts at h
  split at h
  · rename_i texts htexts
    refine ⟨texts, (Except.ok.inj h).symm, fun s hs => ?_⟩
    exact (List.mem_filter.mp (mem_of_mapM_text htexts s hs)).1
  · cases h

theorem settingPath_eq_ok {parts : List Data} {path : String}
    (h : (joinParts parts).mapError Failure.fault = .ok path) :
    ∃ texts, path = joinPath texts ∧ ∀ s ∈ texts, Data.text s ∈ parts := by
  cases hp : joinParts parts with
  | error f =>
      rw [hp] at h
      cases h
  | ok p =>
      rw [hp] at h
      cases h
      exact joinParts_eq_ok hp

/-- **A slot of the layout** is that of an aggregate, of an entity, or has a path of the settings. -/
theorem mem_layout (g : Generator) {slot : FileSlot} (h : slot ∈ g.layout m) {path : String}
    (hpath : slot.2.1 = .ok path) :
    (∃ a ∈ m.aggregates, path = g.aggregatePath a) ∨ (∃ e ∈ m.entities, path = g.entityPath e) ∨
      (∃ kind texts, path = joinPath texts ∧ ∀ s ∈ texts,
        s = g.kindFolder kind ∨ .text s = g.config.subModuleName) ∨
      ∃ texts, path = joinPath texts ∧ ∀ s ∈ texts, .text s = g.config.rootModuleName := by
  rcases List.mem_append.mp h with h | h
  · rcases List.mem_append.mp h with h | h
    · obtain ⟨a, ha, h⟩ := List.mem_flatMap.mp h
      rcases List.mem_cons.mp h with rfl | h
      · exact Or.inl ⟨a, ha, (Except.ok.inj hpath).symm⟩
      · obtain ⟨e, he, rfl⟩ := List.mem_map.mp h
        refine Or.inr (Or.inl ⟨e, ?_, (Except.ok.inj hpath).symm⟩)
        exact List.mem_flatMap.mpr ⟨a, ha, he⟩
    · obtain ⟨kind, _, rfl⟩ := List.mem_map.mp h
      obtain ⟨texts, rfl, htexts⟩ := settingPath_eq_ok hpath
      refine Or.inr (Or.inr (Or.inl ⟨kind, texts, rfl, fun s hs => ?_⟩))
      rcases List.mem_cons.mp (htexts s hs) with hfolder | hname
      · exact Or.inl (Data.text.inj hfolder)
      · exact Or.inr (List.mem_singleton.mp hname)
  · obtain ⟨_, rfl⟩ := g.mem_rootIndexSlots.mp h
    obtain ⟨texts, rfl, htexts⟩ := settingPath_eq_ok hpath
    exact Or.inr (Or.inr (Or.inr ⟨texts, rfl, fun s hs => List.mem_singleton.mp (htexts s hs)⟩))

/-- Every aggregate has a slot in the layout. -/
theorem Generator.aggregateSlot_mem_layout (g : Generator) {a : Aggregate}
    (ha : a ∈ m.aggregates) :
    (a.item, .ok (g.aggregatePath a), some (g.aggregateNames a.name).className) ∈ g.layout m :=
  List.mem_append_left _ (List.mem_append_left _
    (List.mem_flatMap.mpr ⟨a, ha, List.mem_cons_self⟩))

/-- Every entity has a slot in the layout. -/
theorem Generator.entitySlot_mem_layout (g : Generator) {e : Entity} (he : e ∈ m.entities) :
    (e.item, .ok (g.entityPath e), some (g.namesOf e).className) ∈ g.layout m := by
  obtain ⟨a, ha, hea⟩ := List.mem_flatMap.mp he
  exact List.mem_append_left _ (List.mem_append_left _
    (List.mem_flatMap.mpr ⟨a, ha, List.mem_cons_of_mem _ (List.mem_map.mpr ⟨e, hea, rfl⟩)⟩))

/-- The slot of a planned file is in the layout. -/
theorem slot_mem_layout {g : Generator} {x : PlannedFile} (h : x ∈ g.plannedFiles m) :
    x.slot ∈ g.layout m := by
  rw [← g.slots_plannedFiles m]
  exact List.mem_map_of_mem h

/-- **Every path of the layout is a joined text.** -/
theorem paths_joined (g : Generator) {slot : FileSlot} (hslot : slot ∈ g.layout m) {path : String}
    (hpath : slot.2.1 = .ok path) : ∃ texts, path = joinPath texts := by
  rcases mem_layout g hslot hpath with ⟨a, _, h⟩ | ⟨e, _, h⟩ | ⟨_, texts, h, _⟩ | ⟨texts, h, _⟩
  · exact ⟨_, h⟩
  · exact ⟨_, h⟩
  · exact ⟨texts, h⟩
  · exact ⟨texts, h⟩

/-- The paths of the entities are among those of the layout, in order. -/
theorem Generator.sublist_layout (g : Generator) (m : Model) :
    (m.entities.map fun e => Except.ok (g.entityPath e)).Sublist
      ((g.layout m).map (·.2.1)) := by
  have hitems : (m.entities.map fun e => Except.ok (g.entityPath e)).Sublist
      ((m.aggregates.flatMap g.aggregateSlots).map (·.2.1)) := by
    unfold Model.entities
    rw [List.map_flatMap, List.map_flatMap]
    refine List.Sublist.flatMap_right _ fun a _ => ?_
    unfold Generator.aggregateSlots
    rw [List.map_cons, List.map_map]
    exact List.sublist_cons_self _ _
  unfold Generator.layout
  rw [List.map_append, List.map_append, List.append_assoc]
  exact hitems.trans (List.sublist_append_left _ _)

/-! ## 2. Successful walks -/

/-- The sink takes the files of steps without a failure, one by one. -/
theorem takes_of_takeSteps : ∀ {steps : List PlanStep} {p q : Progress ρ σ},
    takeSteps render sink p steps = (q, none) →
      ∃ placed, q.placed = p.placed ++ placed ∧ sink.Takes p.sink (placed.map (·.2)) q.sink
  | [], p, q, h => by
      cases h
      exact ⟨[], (List.append_nil _).symm, rfl⟩
  | st :: rest, p, q, h => by
      rcases takeSteps_cons_eq h with ⟨next, hst, h⟩ | ⟨_, _, ho⟩
      · obtain ⟨placed, hplaced, htakes⟩ := takes_of_takeSteps h
        cases stepResult_of_eq hst with
        | found => exact ⟨placed, hplaced, htakes⟩
        | @accepted f e file s hr ho hs =>
            refine ⟨(f.item, file) :: placed, ?_, s, hs, htakes⟩
            rw [hplaced, List.append_assoc]
            rfl
      · cases ho

/-- **What a successful walk lists** has the slots of the layout, different paths and the texts of the
    plan, and the sink has taken it in order. -/
theorem generate_placed (g : Generator) (h : m.Fresh) {e : ρ} {s : σ} {gen : Generated}
    (hgen : (g.generate render sink m e s).outcome = .ok gen) :
    ∃ placed : List (Item × GeneratedFile), gen.files = placed.map (·.2) ∧
      placed.map slotOf = g.layout m ∧ (pathsOf placed).Nodup ∧
      sink.Takes s gen.files (g.generate render sink m e s).sink ∧
      renderSteps render e (g.plan m) = .ok placed := by
  rw [generate_eq_takeSteps g render sink h] at hgen ⊢
  rcases hq : takeSteps render sink (.start e s) (g.plan m) with ⟨q, _ | problem⟩
  · rw [hq] at hgen
    obtain ⟨placed, hr, hplaced⟩ := takeSteps_rendered hq
    have hstart : q.placed = placed := hplaced
    have hfiles : gen.files = q.files := (Except.ok.inj hgen) ▸ rfl
    refine ⟨placed, ?_, (layout_rendered hr).trans (g.slots_plan m), ?_, ?_, hr⟩
    · rw [hfiles, ← hstart]
      rfl
    · rw [← hstart]
      exact takeSteps_nodup hq List.nodup_nil
    · obtain ⟨taken, htaken, htakes⟩ := takes_of_takeSteps hq
      rw [hfiles]
      unfold Progress.files
      rw [htaken]
      exact htakes
  · rw [hq] at hgen
    cases hgen

/-- Every slot of the layout was filled. -/
theorem exists_placed {g : Generator} {placed : List (Item × GeneratedFile)}
    (h : placed.map slotOf = g.layout m) {slot : FileSlot} (hslot : slot ∈ g.layout m) :
    ∃ file, (slot.1, file) ∈ placed ∧ slot.2.1 = .ok file.path := by
  rw [← h] at hslot
  obtain ⟨x, hx, rfl⟩ := List.mem_map.mp hslot
  exact ⟨x.2, hx, rfl⟩

/-- What a successful walk lists: files with different paths, each a joined text, and the sink has
    taken them in order. -/
theorem generate_eq_ok (g : Generator) (h : m.Fresh) {e : ρ} {s : σ} {gen : Generated}
    (hgen : (g.generate render sink m e s).outcome = .ok gen) :
    (gen.files.map (·.path)).Nodup ∧ (∀ f ∈ gen.files, ∃ texts, f.path = joinPath texts) ∧
      sink.Takes s gen.files (g.generate render sink m e s).sink := by
  obtain ⟨placed, hfiles, hslots, hn, htakes, _⟩ := generate_placed g h hgen
  refine ⟨?_, fun f hf => ?_, htakes⟩
  · rw [hfiles, List.map_map]
    exact hn
  · rw [hfiles] at hf
    obtain ⟨x, hx, rfl⟩ := List.mem_map.mp hf
    exact paths_joined g (hslots ▸ List.mem_map_of_mem hx) rfl

/-- **The entities of a successful walk have different paths.** -/
theorem nodup_entityPaths (g : Generator) (h : m.Fresh) {e : ρ} {s : σ} {gen : Generated}
    (hgen : (g.generate render sink m e s).outcome = .ok gen) :
    (m.entities.map g.entityPath).Nodup := by
  obtain ⟨placed, _, hslots, hn, _⟩ := generate_placed g h hgen
  have hlayout : ((g.layout m).map (·.2.1)).Nodup := hslots ▸ nodup_slots_iff.mpr hn
  have hpaths := hlayout.sublist (g.sublist_layout m)
  have hok : (m.entities.map fun e => (Except.ok (g.entityPath e) : Except Failure String)) =
      (m.entities.map g.entityPath).map Except.ok := by
    rw [List.map_map]
    rfl
  rw [hok] at hpaths
  exact hpaths.of_map

/-- **A successful walk ends with the entities of the model, grouped by kind.** -/
theorem generate_registry (g : Generator) (h : m.Fresh) {e : ρ} {s : σ} {gen : Generated}
    (hgen : (g.generate render sink m e s).outcome = .ok gen) :
    ∃ w, (g.walk render sink (g.generate render sink m e s).model).runFrom (.start e s) =
        (.ok (), w) ∧ w.files = gen.files ∧ w.registry = g.registryOf m.entities := by
  have hsim := g.simulates_walk render sink m (.start e s) (.start e s) (matches_start g e s)
  unfold Generator.generate at hgen ⊢
  rw [g.nameModel_fresh h] at hgen ⊢
  dsimp only at hgen ⊢
  rcases hw : (g.walk render sink (g.decorated m)).runFrom (.start e s) with ⟨problem | ⟨⟩, w⟩
  · rw [hw] at hgen
    cases hgen
  · rw [hw] at hgen hsim
    rcases hq : takeSteps render sink (.start e s) (g.plan m) with ⟨q, _ | failed⟩
    · rw [hq] at hsim
      exact ⟨w, rfl, (Except.ok.inj hgen) ▸ rfl, hsim.registry_eq⟩
    · rw [hq] at hsim
      exact False.elim hsim

theorem files_eq_ok {x : Except Failure Generated} {files : List GeneratedFile}
    (h : x.toOption.map (·.files) = some files) : ∃ gen, x = .ok gen ∧ gen.files = files := by
  cases x with
  | error problem => cases h
  | ok gen => exact ⟨gen, rfl, Option.some.inj h⟩

end DomainGen
