import DomainGen.Generation.Walk
import DomainGen.Proofs.Except
import DomainGen.Proofs.Generation.Decoration
import DomainGen.Proofs.Registry.Grouping

/-!
# The plan of a model

Which files a model gives, and in which order, follows from the model and the configuration alone:
every aggregate with its entities, then an index for each kind that has entities, then the index of
the kinds. This module says so without walking anything. The indexes are read off the entities of
the model, not off a registry that a walk has filled.

* `Generator.ofConfig_eq_ok` : what a generator takes from a configuration;
* `PlannedFile` : one file, before it is rendered; `Generator.plannedFiles` : all files of a model,
  which `Generator.mem_plannedFiles` takes apart;
* `PlanStep`, `Generator.plan` : the same files as the steps of a walk. One step gives no file: the
  template of the indexes of kinds is looked up once, also when there are none of them;
* `RenderResult` : what rendering a file of a plan can end in, and `rendered_eq_iff` : it always ends so;
  `renderSteps` : the texts of all files.
-/

namespace DomainGen

/-! ## 1. Generators and configurations -/

/-- A generator has the configuration it was made of, and the policies of all roles. -/
theorem Generator.ofConfig_eq_ok {base : List String} {c : Config} {g : Generator} :
    ofConfig base c = .ok g ↔ g.config = c ∧ g.workingFolder = base ∧
      c.policyFor none = .ok g.aggregate ∧ ∀ k, c.policyFor (some k) = .ok (g.policyOf k) := by
  constructor
  · intro h
    obtain ⟨aggregate, ha, h⟩ := except_bind_eq_ok.mp h
    obtain ⟨command, hc, h⟩ := except_bind_eq_ok.mp h
    obtain ⟨event, he, h⟩ := except_bind_eq_ok.mp h
    obtain ⟨fault, hf, h⟩ := except_bind_eq_ok.mp h
    cases h
    refine ⟨rfl, rfl, ha, fun k => ?_⟩
    cases k with
    | command => exact hc
    | event => exact he
    | fault => exact hf
  · obtain ⟨config, folder, aggregate, command, event, fault⟩ := g
    rintro ⟨rfl, rfl, ha, hk⟩
    exact except_bind_eq_ok.mpr ⟨aggregate, ha, except_bind_eq_ok.mpr ⟨command, hk .command,
      except_bind_eq_ok.mpr ⟨event, hk .event, except_bind_eq_ok.mpr ⟨fault, hk .fault, rfl⟩⟩⟩⟩

/-! ## 2. Planned files -/

/-- A file of a plan. -/
structure PlannedFile where
  /-- What it stands for. -/
  item : Item
  /-- Its template, if its role has one. -/
  template : Except Failure Data
  /-- What the template is given. -/
  context : Entries
  /-- Its path, if the settings give one. -/
  path : Except Failure String
  /-- The name of the class in it. -/
  className : Option String

/-- A step of a plan. -/
inductive PlanStep where
  /-- A template is looked up. -/
  | lookup (template : Except Failure Data)
  /-- A file is rendered and handed over. -/
  | file (f : PlannedFile)

namespace Generator

variable (g : Generator)

/-- Where an aggregate goes. -/
def aggregatePath (a : Aggregate) : String :=
  joinPath [g.aggregate.folder, (g.aggregateNames a.name).fileName]

/-- Where an entity goes. -/
def entityPath (e : Entity) : String :=
  joinPath [(g.policyOf e.kind).folder, (g.namesOf e).fileName]

/-- The file of an aggregate. -/
def aggregateFile (modelContext : Data) (a : Aggregate) : PlannedFile where
  item := a.item
  template := g.config.templateFor aggregateRole
  context := g.aggregateContext modelContext (g.decoratedAggregate a)
  path := .ok (g.aggregatePath a)
  className := some (g.aggregateNames a.name).className

/-- The file of an entity. -/
def entityFile (aggregateContext : Data) (e : Entity) : PlannedFile where
  item := e.item
  template := g.config.templateFor e.kind.text
  context := Model.entityContext (g.decoratedEntity e) aggregateContext
  path := .ok (g.entityPath e)
  className := some (g.namesOf e).className

/-- The files of an aggregate: its own, then those of its entities. -/
def aggregateFiles (modelContext : Data) (a : Aggregate) : List PlannedFile :=
  g.aggregateFile modelContext a ::
    a.entities.map
      (g.entityFile (.mapping (g.aggregateContext modelContext (g.decoratedAggregate a))))

/-- The files of all aggregates and entities. Every template is given the names of the whole
    model. -/
def itemFiles (m : Model) : List PlannedFile :=
  m.aggregates.flatMap (g.aggregateFiles (.mapping (g.decorated m).context))

/-! ## 3. Planned indexes -/

/-- The folder of a kind. -/
def kindFolder (kind : Kind) : String := (g.policyOf kind).folder

/-- An entity as the index of its kind lists it. -/
def registration (e : Entity) : Kind × CollectionItem :=
  (e.kind, ⟨(g.namesOf e).className, (g.namesOf e).fileName, g.entityPath e⟩)

/-- Some entities grouped by kind. -/
def registryOf (es : List Entity) : Registry :=
  Registry.grouped g.kindFolder (es.map g.registration)

/-- The index of a kind. -/
def kindIndexFile (c : Collection) : PlannedFile where
  item := .kindIndex c.kind
  template := g.config.templateFor subModuleRole
  context := c.context
  path := (joinParts [.text c.folder, g.config.subModuleName]).mapError .fault
  className := none

/-- The index of the kinds. -/
def rootIndexFile (collections : List Collection) : PlannedFile where
  item := .rootIndex
  template := g.config.templateFor rootModuleRole
  context := rootContext collections
  path := (joinParts [g.config.rootModuleName]).mapError .fault
  className := none

/-- The index of the kinds is there if there are kinds or the configuration asks for it. -/
def rootIndexFiles (collections : List Collection) : List PlannedFile :=
  if !collections.isEmpty || g.config.emitEmptyRootIndex.isTrue then [g.rootIndexFile collections]
  else []

/-- The indexes of a model with the given entities. -/
def indexFiles (es : List Entity) : List PlannedFile :=
  (g.registryOf es).collections.map g.kindIndexFile
    ++ g.rootIndexFiles (g.registryOf es).collections

/-! ## 4. The plan -/

/-- All files of a model, in order. -/
def plannedFiles (m : Model) : List PlannedFile :=
  g.itemFiles m ++ g.indexFiles m.entities

/-- The steps of a walk over a model. -/
def plan (m : Model) : List PlanStep :=
  (g.itemFiles m).map .file
    ++ .lookup (g.config.templateFor subModuleRole) :: (g.indexFiles m.entities).map .file

end Generator

/-- **What is planned**: a file for each aggregate and each entity, for each group of entities, and for
    all the groups. -/
theorem Generator.mem_plannedFiles {g : Generator} {m : Model} {f : PlannedFile}
    (h : f ∈ g.plannedFiles m) :
    (∃ a ∈ m.aggregates, f = g.aggregateFile (.mapping (g.decorated m).context) a) ∨
      (∃ x ∈ m.entities, ∃ context, f = g.entityFile context x) ∨
      (∃ c ∈ (g.registryOf m.entities).collections, f = g.kindIndexFile c) ∨
      f = g.rootIndexFile (g.registryOf m.entities).collections := by
  rcases List.mem_append.mp h with h | h
  · obtain ⟨a, ha, h⟩ := List.mem_flatMap.mp h
    rcases List.mem_cons.mp h with rfl | h
    · exact Or.inl ⟨a, ha, rfl⟩
    · obtain ⟨x, hx, rfl⟩ := List.mem_map.mp h
      exact Or.inr (Or.inl ⟨x, List.mem_flatMap.mpr ⟨a, ha, hx⟩, _, rfl⟩)
  · rcases List.mem_append.mp h with h | h
    · obtain ⟨c, hc, rfl⟩ := List.mem_map.mp h
      exact Or.inr (Or.inr (Or.inl ⟨c, hc, rfl⟩))
    · unfold Generator.rootIndexFiles at h
      split at h
      · exact Or.inr (Or.inr (Or.inr (List.mem_singleton.mp h)))
      · exact absurd h List.not_mem_nil

/-- A step of the plan is a planned file, or the template of the indexes of kinds is looked up. -/
theorem Generator.mem_plan {g : Generator} {m : Model} {st : PlanStep} (h : st ∈ g.plan m) :
    (∃ f ∈ g.plannedFiles m, st = .file f) ∨
      st = .lookup (g.config.templateFor subModuleRole) := by
  rcases List.mem_append.mp h with h | h
  · obtain ⟨f, hf, rfl⟩ := List.mem_map.mp h
    exact Or.inl ⟨f, List.mem_append_left _ hf, rfl⟩
  · rcases List.mem_cons.mp h with rfl | h
    · exact Or.inr rfl
    · obtain ⟨f, hf, rfl⟩ := List.mem_map.mp h
      exact Or.inl ⟨f, List.mem_append_right _ hf, rfl⟩

/-- The kinds that have entities, in the order in which a walk over the model meets them. -/
def Model.populatedKinds (m : Model) : List Kind := kindsMet (·.kind) m.entities

/-- A kind is populated exactly if there are entities of it. -/
theorem Model.Fresh.mem_populatedKinds {m : Model} (h : m.Fresh) {kind : Kind} :
    kind ∈ m.populatedKinds ↔ 0 < m.count (some kind) := by
  unfold Model.populatedKinds
  rw [mem_kindsMet, h.count_some, List.length_pos_iff_exists_mem]
  constructor
  · rintro ⟨e, he, hk⟩
    exact ⟨e, List.mem_filter.mpr ⟨he, beq_iff_eq.mpr hk⟩⟩
  · rintro ⟨e, he⟩
    exact ⟨e, (List.mem_filter.mp he).1, beq_iff_eq.mp (List.mem_filter.mp he).2⟩

/-- The indexes of kinds are those of the populated kinds. -/
theorem Generator.collections_registryOf (g : Generator) (m : Model) :
    (g.registryOf m.entities).collections =
      m.populatedKinds.map (Registry.group g.kindFolder (m.entities.map g.registration)) := by
  show (kindsMet (·.1) (m.entities.map g.registration)).map _ = _
  unfold Model.populatedKinds kindsMet
  rw [List.map_map]
  rfl

/-! ## 5. The texts of a plan -/

section Render

variable {ρ : Type} (render : Renderer ρ)

/-- A planned file with its text: the template is looked up, rendered, and the path is taken from
    the settings. -/
def PlannedFile.rendered (f : PlannedFile) (e : ρ) : ρ × Except Failure GeneratedFile :=
  match f.template with
  | .error problem => (e, .error problem)
  | .ok template =>
    match render e template f.context with
    | (e, .error problem) => (e, .error problem)
    | (e, .ok content) => (e, f.path.map fun path => ⟨path, content, f.className⟩)

/-- The possible results of rendering a file. -/
inductive RenderResult (f : PlannedFile) (e : ρ) : ρ → Except Failure GeneratedFile → Prop where
  /-- Its role has no template. -/
  | missing {problem} (ht : f.template = .error problem) : RenderResult f e e (.error problem)
  /-- The template is not rendered. -/
  | unrendered {template e' problem} (ht : f.template = .ok template)
      (hr : render e template f.context = (e', .error problem)) : RenderResult f e e' (.error problem)
  /-- The settings give no path. -/
  | unplaced {template e' content problem} (ht : f.template = .ok template)
      (hr : render e template f.context = (e', .ok content)) (hp : f.path = .error problem) :
      RenderResult f e e' (.error problem)
  /-- There is a text with a path. -/
  | rendered {template e' content path} (ht : f.template = .ok template)
      (hr : render e template f.context = (e', .ok content)) (hp : f.path = .ok path) :
      RenderResult f e e' (.ok ⟨path, content, f.className⟩)

variable {render} in
/-- **Rendering a file has one of the results.** -/
theorem rendered_eq_iff {f : PlannedFile} {e e' : ρ} {out : Except Failure GeneratedFile} :
    f.rendered render e = (e', out) ↔ RenderResult render f e e' out := by
  constructor
  · intro h
    unfold PlannedFile.rendered at h
    cases ht : f.template with
    | error problem =>
        rw [ht] at h
        cases h
        exact .missing ht
    | ok template =>
        rw [ht] at h
        dsimp only at h
        rcases hr : render e template f.context with ⟨next, problem | content⟩ <;> rw [hr] at h
        · cases h
          exact .unrendered ht hr
        · cases hp : f.path with
          | error problem =>
              rw [hp] at h
              cases h
              exact .unplaced ht hr hp
          | ok path =>
              rw [hp] at h
              cases h
              exact .rendered ht hr hp
  · intro h
    unfold PlannedFile.rendered
    cases h with
    | missing ht => rw [ht]
    | unrendered ht hr => simp only [ht, hr]
    | unplaced ht hr hp => simp only [ht, hr, hp, Except.map]
    | rendered ht hr hp => simp only [ht, hr, hp, Except.map]

/-- The files of a plan with their texts, if all of them can be rendered. -/
def renderSteps : ρ → List PlanStep → Except Failure (List (Item × GeneratedFile))
  | _, [] => .ok []
  | _, .lookup (.error problem) :: _ => .error problem
  | e, .lookup (.ok _) :: rest => renderSteps e rest
  | e, .file f :: rest =>
    match f.rendered render e with
    | (_, .error problem) => .error problem
    | (e, .ok file) => (renderSteps e rest).map ((f.item, file) :: ·)

end Render

/-- The paths of some files. -/
def pathsOf (placed : List (Item × GeneratedFile)) : List String :=
  placed.map (·.2.path)

end DomainGen
