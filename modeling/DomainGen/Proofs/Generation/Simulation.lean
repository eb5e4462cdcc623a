import DomainGen.Proofs.Generation.Steps

/-!
# A walk takes the steps of its plan

A walk goes through nested lists, fills a registry on the way and reads the second half of its files
back from it. The plan is one flat list of steps that is known before. This module relates the two:
an action of the walk simulates some steps if both hand over the same files and fail alike.

* `Walk.Matches` : **the invariant.** A walk agrees with the steps taken so far, and its registry
  holds the groups of the entities met so far;
* `Generator.Simulates` : an action simulates some steps; sequences and loops of such actions do
  too;
* `simulates_walk` : a walk over a model with all names simulates the plan;
* `generate_eq_takeSteps` : **what generating a fresh model leaves behind is what its plan leaves.**
-/

namespace DomainGen

variable {ρ σ : Type}

/-! ## 1. The invariant -/

/-- A walk that has met the entities `seen` agrees with the steps taken so far. -/
structure Walk.Matches (g : Generator) (w : Walk ρ σ) (p : Progress ρ σ) (seen : List Entity) :
    Prop where
  engine_eq : w.engine = p.engine
  sink_eq : w.sink = p.sink
  files_eq : w.files = p.files
  owners_eq : ∀ path, w.owners.lookup path = p.owner? path
  registry_eq : w.registry = g.registryOf seen

theorem matches_start (g : Generator) (e : ρ) (s : σ) :
    (Walk.start e s).Matches g (.start e s) [] where
  engine_eq := rfl
  sink_eq := rfl
  files_eq := rfl
  owners_eq _ := rfl
  registry_eq := rfl

/-- An action ends as some steps do: in agreement after a success, with one failure otherwise. -/
def Agrees (g : Generator) (after : List Entity) :
    Except Failure Unit × Walk ρ σ → Progress ρ σ × Option Failure → Prop
  | (.ok _, w), (q, none) => w.Matches g q after
  | (.error problem, w), (q, some failed) =>
    problem = failed ∧ w.engine = q.engine ∧ w.sink = q.sink
  | _, _ => False

namespace Walk.Matches

variable {g : Generator} {w : Walk ρ σ} {p : Progress ρ σ} {seen : List Entity}

/-- The newest owner stands in front for the walk and behind the others for the steps; a path that
    was free shows no difference. -/
theorem owners_concat (h : w.Matches g p seen) {item : Item} {file : GeneratedFile}
    (ho : p.owner? file.path = none) (e : ρ) (s : σ) (path : String) :
    ((file.path, item) :: w.owners).lookup path =
      (Progress.mk e s (p.placed ++ [(item, file)])).owner? path := by
  rw [List.lookup_cons, h.owners_eq path]
  unfold Progress.owner? at ho ⊢
  rw [List.find?_append]
  cases hb : path == file.path with
  | true =>
      rw [beq_iff_eq] at hb
      rw [hb, Option.map_eq_none_iff.mp ho]
      simp
  | false =>
      have hb' : (file.path == path) = false := by
        rw [beq_eq_false_iff_ne] at hb ⊢
        exact hb.symm
      simp [hb']

theorem files_concat (h : w.Matches g p seen) (item : Item) (file : GeneratedFile) (e : ρ) (s : σ) :
    w.files ++ [file] = (Progress.mk e s (p.placed ++ [(item, file)])).files := by
  rw [h.files_eq]
  unfold Progress.files
  rw [List.map_append]
  rfl

theorem withEngine (h : w.Matches g p seen) (e : ρ) :
    ({ w with engine := e } : Walk ρ σ).Matches g { p with engine := e } seen :=
  ⟨rfl, h.sink_eq, h.files_eq, h.owners_eq, h.registry_eq⟩

end Walk.Matches

/-! ## 2. Actions and steps -/

namespace Generator

variable (g : Generator) (render : Renderer ρ) (sink : Sink σ)

/-- An action simulates some steps: from agreement after the entities `before` both end in
    agreement after the entities `after`, or with the same failure. -/
def Simulates (act : Walking ρ σ Unit) (steps : List PlanStep) (before after : List Entity) :
    Prop :=
  ∀ w p, w.Matches g p before → Agrees g after (act.runFrom w) (takeSteps render sink p steps)

variable {g render sink}

theorem Simulates.done {es : List Entity} : g.Simulates render sink (pure ()) [] es es :=
  fun _ _ h => h

theorem Simulates.bind {act : Walking ρ σ Unit} {next : Unit → Walking ρ σ Unit}
    {xs ys : List PlanStep} {before mid after : List Entity}
    (hact : g.Simulates render sink act xs before mid)
    (hnext : g.Simulates render sink (next ()) ys mid after) :
    g.Simulates render sink (act >>= next) (xs ++ ys) before after := by
  intro w p h
  have ha := hact w p h
  rw [Walking.runFrom_bind, takeSteps_append]
  rcases hv : act.runFrom w with ⟨problem | ⟨⟩, v⟩ <;>
    rcases hq : takeSteps render sink p xs with ⟨q, _ | failed⟩ <;> rw [hv, hq] at ha
  · exact False.elim ha
  · exact ha
  · exact hnext v q ha
  · exact False.elim ha

/-- A loop simulates the steps of its rounds, one round after the other. -/
theorem Simulates.forM {α : Type} {body : α → Walking ρ σ Unit} {steps : α → List PlanStep}
    {meets : α → List Entity} : ∀ {xs : List α},
      (∀ x ∈ xs, ∀ seen, g.Simulates render sink (body x) (steps x) seen (seen ++ meets x)) →
      ∀ seen, g.Simulates render sink (xs.forM body) (xs.flatMap steps) seen
        (seen ++ xs.flatMap meets)
  | [], _, seen => by
      rw [List.flatMap_nil, List.flatMap_nil, List.append_nil]
      exact Simulates.done
  | x :: rest, h, seen => by
      have hx := h x List.mem_cons_self seen
      have hrest := Simulates.forM (fun y hy => h y (List.mem_cons_of_mem x hy)) (seen ++ meets x)
      rw [List.flatMap_cons, List.flatMap_cons, ← List.append_assoc]
      exact hx.bind hrest

/-- Looking a template up is a step of its own. -/
theorem Simulates.lookup {template : Except Failure Data} {next : Data → Walking ρ σ Unit}
    {rest : List PlanStep} {before after : List Entity}
    (h : ∀ t, template = .ok t → g.Simulates render sink (next t) rest before after) :
    g.Simulates render sink (.ofExcept template >>= next) (.lookup template :: rest) before
      after := by
  intro w p hw
  rw [Walking.runFrom_bind, Walking.runFrom_ofExcept]
  cases template with
  | error problem => exact ⟨rfl, hw.engine_eq, hw.sink_eq⟩
  | ok t => exact h t rfl w p hw

/-- What an action reads of the registry are the groups of the entities met so far. -/
theorem Simulates.withRegistry {next : Registry → Walking ρ σ Unit} {steps : List PlanStep}
    {before after : List Entity}
    (h : g.Simulates render sink (next (g.registryOf before)) steps before after) :
    g.Simulates render sink (get >>= fun w => next w.registry) steps before after := by
  intro w p hw
  rw [Walking.runFrom_bind, Walking.runFrom_get]
  show Agrees g after ((next w.registry).runFrom w) _
  rw [hw.registry_eq]
  exact h w p hw

/-! ## 3. One file -/

/-- A planned file as an action: its template is looked up and rendered, its path is taken from the
    settings, and it is handed over. -/
def handOver (render : Renderer ρ) (sink : Sink σ) (f : PlannedFile) : Walking ρ σ Unit := do
  let template ← .ofExcept f.template
  let content ← renderText render template f.context
  let path ← .ofExcept f.path
  emit sink f.item ⟨path, content, f.className⟩

/-- Rendering keeps everything but the state of what renders. -/
theorem runFrom_renderText (template : Data) (context : Entries) (w : Walk ρ σ) :
    (renderText render template context).runFrom w =
      ((render w.engine template context).2,
        { w with engine := (render w.engine template context).1 }) := by
  unfold renderText
  rw [Walking.runFrom_bind, Walking.runFrom_get]
  show (set { w with engine := (render w.engine template context).1 } >>= fun _ =>
    Walking.ofExcept (render w.engine template context).2).runFrom w = _
  rw [Walking.runFrom_bind, Walking.runFrom_set]
  exact Walking.runFrom_ofExcept _ _

/-- A rendered file is placed as it is emitted. -/
theorem agrees_emit {w : Walk ρ σ} {p : Progress ρ σ} {es : List Entity} (hw : w.Matches g p es)
    (item : Item) (file : GeneratedFile) :
    Agrees g es ((emit sink item file).runFrom w) (place sink p item file) := by
  have how : w.owners.lookup file.path = p.owner? file.path := hw.owners_eq file.path
  cases ho : p.owner? file.path with
  | some first =>
      rw [runFrom_emit_taken (how.trans ho), place_taken ho]
      exact ⟨rfl, hw.engine_eq, hw.sink_eq⟩
  | none =>
      rcases hs : sink w.sink file with ⟨s, _ | fault⟩
      · rw [runFrom_emit_accepted (how.trans ho) hs, place_accepted ho (hw.sink_eq ▸ hs)]
        exact ⟨hw.engine_eq, rfl, hw.files_concat item file p.engine s,
          hw.owners_concat ho p.engine s, hw.registry_eq⟩
      · rw [runFrom_emit_refused (how.trans ho) hs, place_refused ho (hw.sink_eq ▸ hs)]
        exact ⟨rfl, hw.engine_eq, rfl⟩

theorem takeSteps_single (p : Progress ρ σ) (st : PlanStep) :
    takeSteps render sink p [st] = takeStep render sink p st := by
  unfold takeSteps
  rcases takeStep render sink p st with ⟨q, _ | problem⟩ <;> rfl

variable (g render sink)

/-- **Handing a planned file over is one step.** -/
theorem simulates_handOver (f : PlannedFile) (es : List Entity) :
    g.Simulates render sink (handOver render sink f) [.file f] es es := by
  intro w p hw
  rw [takeSteps_single]
  simp only [handOver, takeStep, PlannedFile.rendered, ← hw.engine_eq, Walking.runFrom_bind,
    Walking.runFrom_ofExcept]
  cases f.template with
  | error problem => exact ⟨rfl, rfl, hw.sink_eq⟩
  | ok template =>
      simp only [runFrom_renderText]
      rcases render w.engine template f.context with ⟨e, problem | content⟩
      · exact ⟨rfl, rfl, hw.sink_eq⟩
      · cases f.path with
        | error problem => exact ⟨rfl, rfl, hw.sink_eq⟩
        | ok path => exact agrees_emit (hw.withEngine e) f.item ⟨path, content, f.className⟩

/-! ## 4. The parts of a walk -/

/-- Registering the file of an entity, as an action. -/
def registerFile (g : Generator) (e : Entity) : Walking ρ σ Unit := do
  let w ← get
  match w.registry.register e.kind (g.kindFolder e.kind) (g.registration e).2 with
  | .ok registry => set { w with registry }
  | .error problem => throw (.registry problem)

/-- **Registering never fails**: every file of a kind is registered under the one folder the kind
    has. -/
theorem simulates_registerFile (e : Entity) (seen : List Entity) :
    g.Simulates render sink (g.registerFile e) [] seen (seen ++ [e]) := by
  intro w p hw
  have hreg : w.registry.register e.kind (g.kindFolder e.kind) (g.registration e).2 =
      .ok (g.registryOf (seen ++ [e])) := by
    rw [hw.registry_eq]
    unfold registryOf
    rw [List.map_append]
    exact Registry.register_grouped g.kindFolder (seen.map g.registration) e.kind
      (g.registration e).2
  unfold registerFile
  rw [Walking.runFrom_bind, Walking.runFrom_get]
  simp only [hreg, Walking.runFrom_set]
  exact ⟨hw.engine_eq, hw.sink_eq, hw.files_eq, hw.owners_eq, rfl⟩

/-- A loop over changed items. -/
theorem forM_map {α β : Type} (change : α → β) (body : β → Walking ρ σ Unit) (xs : List α) :
    (xs.map change).forM body = xs.forM fun x => body (change x) := List.forM_map

theorem emitEntity_eq (context : Data) (e : Entity) :
    g.emitEntity render sink context (g.decoratedEntity e) =
      handOver render sink (g.entityFile context e) >>= fun _ => g.registerFile e := by
  simp only [emitEntity, handOver, registerFile, bind_assoc, entityFile, Walking.ofExcept,
    pure_bind]
  rfl

theorem simulates_emitEntity (context : Data) (e : Entity) (seen : List Entity) :
    g.Simulates render sink (g.emitEntity render sink context (g.decoratedEntity e))
      [.file (g.entityFile context e)] seen (seen ++ [e]) := by
  rw [emitEntity_eq]
  exact (g.simulates_handOver render sink _ seen).bind (g.simulates_registerFile render sink e seen)

theorem emitAggregate_eq (modelContext : Data) (a : Aggregate) :
    g.emitAggregate render sink modelContext (g.decoratedAggregate a) =
      handOver render sink (g.aggregateFile modelContext a) >>= fun _ =>
        a.entities.forM fun e => g.emitEntity render sink
          (.mapping (g.aggregateContext modelContext (g.decoratedAggregate a)))
          (g.decoratedEntity e) := by
  simp only [emitAggregate, handOver, bind_assoc, aggregateFile, Walking.ofExcept, pure_bind,
    entities_decoratedAggregate, forM_map]
  rfl

/-- The file of an aggregate and those of its entities. -/
theorem simulates_emitAggregate (modelContext : Data) (a : Aggregate) (seen : List Entity) :
    g.Simulates render sink (g.emitAggregate render sink modelContext (g.decoratedAggregate a))
      ((g.aggregateFiles modelContext a).map .file) seen (seen ++ a.entities) := by
  have hentities := Simulates.forM (fun e (_ : e ∈ a.entities) =>
    g.simulates_emitEntity render sink
      (.mapping (g.aggregateContext modelContext (g.decoratedAggregate a))) e) seen
  rw [← List.map_eq_flatMap, List.flatMap_singleton'] at hentities
  rw [emitAggregate_eq]
  unfold aggregateFiles
  rw [List.map_cons, List.map_map]
  exact (g.simulates_handOver render sink _ seen).bind hentities

/-- The index of a kind; its template is looked up before. -/
theorem simulates_emitKindIndex {template : Data}
    (ht : g.config.templateFor subModuleRole = .ok template) (c : Collection)
    (es : List Entity) :
    g.Simulates render sink (g.emitKindIndex render sink template c)
      [.file (g.kindIndexFile c)] es es := by
  have same : g.emitKindIndex render sink template c =
      handOver render sink (g.kindIndexFile c) := by
    unfold emitKindIndex handOver kindIndexFile
    simp only [ht]
    rfl
  rw [same]
  exact g.simulates_handOver render sink _ es

/-- The index of the kinds, if there is one. -/
theorem simulates_emitRootIndex (collections : List Collection) (es : List Entity) :
    g.Simulates render sink (g.emitRootIndex render sink collections)
      ((g.rootIndexFiles collections).map .file) es es := by
  unfold emitRootIndex rootIndexFiles
  split
  · exact g.simulates_handOver render sink (g.rootIndexFile collections) es
  · exact Simulates.done

/-- The indexes, as an action on what the registry holds. -/
def emitIndexes (g : Generator) (render : Renderer ρ) (sink : Sink σ) (template : Data)
    (registry : Registry) : Walking ρ σ Unit := do
  registry.collections.forM (g.emitKindIndex render sink template)
  g.emitRootIndex render sink registry.collections

theorem simulates_emitIndexes {template : Data}
    (ht : g.config.templateFor subModuleRole = .ok template) (es : List Entity) :
    g.Simulates render sink (g.emitIndexes render sink template (g.registryOf es))
      ((g.indexFiles es).map .file) es es := by
  have hkind : ∀ c ∈ (g.registryOf es).collections, ∀ seen,
      g.Simulates render sink (g.emitKindIndex render sink template c)
        [.file (g.kindIndexFile c)] seen (seen ++ (fun _ => []) c) := by
    intro c _ seen
    rw [List.append_nil]
    exact g.simulates_emitKindIndex render sink ht c seen
  have hkinds := Simulates.forM hkind es
  rw [← List.map_eq_flatMap, List.flatMap_eq_nil_iff.mpr fun _ _ => rfl, List.append_nil] at hkinds
  unfold indexFiles
  rw [List.map_append, List.map_map]
  exact hkinds.bind (g.simulates_emitRootIndex render sink _ es)

theorem walk_eq (m : Model) : g.walk render sink (g.decorated m) =
    (m.aggregates.forM fun a => g.emitAggregate render sink (.mapping (g.decorated m).context)
      (g.decoratedAggregate a)) >>= fun _ =>
        .ofExcept (g.config.templateFor subModuleRole) >>= fun template =>
          get >>= fun w => g.emitIndexes render sink template w.registry := by
  unfold walk
  rw [← forM_map g.decoratedAggregate]
  rfl

/-- **A walk over a model with all names simulates its plan.** -/
theorem simulates_walk (m : Model) :
    g.Simulates render sink (g.walk render sink (g.decorated m)) (g.plan m) [] m.entities := by
  have hitems := Simulates.forM (fun a (_ : a ∈ m.aggregates) =>
    g.simulates_emitAggregate render sink (.mapping (g.decorated m).context) a) []
  rw [List.nil_append] at hitems
  rw [walk_eq]
  unfold plan itemFiles
  rw [List.map_flatMap]
  refine hitems.bind (Simulates.lookup fun template ht => ?_)
  exact Simulates.withRegistry (g.simulates_emitIndexes render sink ht m.entities)

end Generator

/-! ## 5. Generating -/

/-- What generating a model answers after steps that ended so. -/
def Progress.outcome (m : Model) : Progress ρ σ × Option Failure → Except Failure Generated
  | (_, some problem) => .error problem
  | (q, none) => .ok ⟨q.files, m.source, m.aggregates.length,
      m.populatedKinds.map fun kind => (kind, m.count (some kind))⟩

/-- The groups of the registry are counted by the model. -/
theorem counts_registryOf (g : Generator) {m : Model} (h : m.Fresh) :
    (g.registryOf m.entities).collections.map (fun c => (c.kind, c.items.length)) =
      m.populatedKinds.map fun kind => (kind, m.count (some kind)) := by
  have hitems : ∀ kind, (Registry.itemsAmong (m.entities.map g.registration) kind).length =
      m.count (some kind) := by
    intro kind
    unfold Registry.itemsAmong
    rw [h.count_some, List.length_map, List.filter_map, List.length_map]
    rfl
  rw [g.collections_registryOf, List.map_map]
  exact List.map_congr_left fun kind _ => congrArg (Prod.mk kind) (hitems kind)

/-- **Generating a fresh model takes the steps of its plan.** -/
theorem generate_eq_takeSteps (g : Generator) (render : Renderer ρ) (sink : Sink σ) {m : Model}
    (h : m.Fresh) (e : ρ) (s : σ) :
    g.generate render sink m e s =
      ⟨g.decorated m, (takeSteps render sink (.start e s) (g.plan m)).1.engine,
        (takeSteps render sink (.start e s) (g.plan m)).1.sink,
        Progress.outcome m (takeSteps render sink (.start e s) (g.plan m))⟩ := by
  have hsim := g.simulates_walk render sink m (.start e s) (.start e s) (matches_start g e s)
  unfold Generator.generate
  rw [g.nameModel_fresh h]
  dsimp only
  rcases hw : (g.walk render sink (g.decorated m)).runFrom (.start e s) with ⟨problem | ⟨⟩, w⟩ <;>
    rcases hq : takeSteps render sink (.start e s) (g.plan m) with ⟨q, _ | failed⟩ <;>
    rw [hw, hq] at hsim
  · exact False.elim hsim
  · obtain ⟨rfl, he, hs⟩ := hsim
    simp only [he, hs]
    rfl
  · have hlength : (g.decorated m).aggregates.length = m.aggregates.length := List.length_map _
    simp only [hsim.engine_eq, hsim.sink_eq, hsim.files_eq, hsim.registry_eq, hlength,
      counts_registryOf g h]
    rfl
  · exact False.elim hsim

/-- **The sink is handed nothing but planned files**: what none of them destroys in it, generating
    does not destroy. -/
theorem generate_sink_induct {I : σ → Prop} {sink : Sink σ} (g : Generator) {m : Model}
    (hI : ∀ s f, (∃ x ∈ g.plannedFiles m, x.path = .ok f.path) → I s → I (sink s f).1)
    (render : Renderer ρ) (h : m.Fresh) (e : ρ) {s : σ} (hs : I s) :
    I (g.generate render sink m e s).sink := by
  rw [generate_eq_takeSteps g render sink h]
  rcases hq : takeSteps render sink (.start e s) (g.plan m) with ⟨q, o⟩
  have hnext : ∀ {p : Progress ρ σ} {x : PlannedFile} {e' : ρ} {f : GeneratedFile} {t : σ}
      {fault : Option Fault}, .file x ∈ g.plan m → x.rendered render p.engine = (e', .ok f) →
      sink p.sink f = (t, fault) → I p.sink → I t := by
    intro p x e' f t fault hx hr ht hp
    obtain ⟨y, hy, heq⟩ | hlookup := Generator.mem_plan hx
    · cases heq
      have hkept := hI p.sink f ⟨x, hy, (rendered_eq_ok hr).1⟩ hp
      rw [ht] at hkept
      exact hkept
    · cases hlookup
  refine takeSteps_induct (I := fun p => I p.sink) ?_ hq hs
  intro p q st o hst hr hp
  cases hr with
  | found => exact hp
  | missing => exact hp
  | unrendered => exact hp
  | taken => exact hp
  | refused hr _ hsink => exact hnext hst hr hsink hp
  | accepted hr _ hsink => exact hnext hst hr hsink hp

/-- **What renders is only ever asked to render**: what that does not destroy in it, generating does
    not destroy. -/
theorem generate_engine_induct {I : ρ → Prop} {render : Renderer ρ} (g : Generator) {m : Model}
    (hI : ∀ e template context, I e → I (render e template context).1) (sink : Sink σ)
    (h : m.Fresh) {e : ρ} (s : σ) (he : I e) : I (g.generate render sink m e s).engine := by
  rw [generate_eq_takeSteps g render sink h]
  rcases hq : takeSteps render sink (.start e s) (g.plan m) with ⟨q, o⟩
  have hnext : ∀ {e e' : ρ} {x : PlannedFile} {out : Except Failure GeneratedFile},
      x.rendered render e = (e', out) → I e → I e' := by
    intro e e' x out hr hp
    have hkept {template : Data} {answer : Except Failure String}
        (hcall : render e template x.context = (e', answer)) : I e' := by
      have hnext := hI e template x.context hp
      rwa [hcall] at hnext
    cases rendered_eq_iff.mp hr with
    | missing => exact hp
    | unrendered _ hcall => exact hkept hcall
    | unplaced _ hcall => exact hkept hcall
    | rendered _ hcall => exact hkept hcall
  refine takeSteps_induct (I := fun p => I p.engine) ?_ hq he
  intro p q st o _ hr hp
  cases hr with
  | found => exact hp
  | missing => exact hp
  | unrendered hr => exact hnext hr hp
  | taken hr => exact hnext hr hp
  | refused hr => exact hnext hr hp
  | accepted hr => exact hnext hr hp

end DomainGen
