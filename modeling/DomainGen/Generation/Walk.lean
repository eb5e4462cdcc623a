import DomainGen.Generation.Generator
import DomainGen.Registry
import DomainGen.Sink.Basic

/-!
# Walking a model

The files of a model, one after the other: each aggregate and its entities, then an index for each
kind that has entities, then the index of the kinds. Every file is rendered, then checked against
the paths that are taken, then handed to a sink, and the walk ends at the first failure. Files that
were handed over before it stay where they are.

* `Walk` : the state of a walk; `Walking` : an action on it that can fail;
* `emit` : handing over one file;
* `Generator.generate` : the walk over a model. It names the items first, so every template sees all
  names.
-/

namespace DomainGen

/-! ## 1. State -/

/-- The state of a walk. -/
structure Walk (ρ σ : Type) where
  /-- The state of what renders. -/
  engine : ρ
  /-- The state of the sink. -/
  sink : σ
  /-- The files of the entities so far, by kind. -/
  registry : Registry
  /-- The files handed over so far. -/
  files : List GeneratedFile
  /-- What has each path. -/
  owners : List (String × Item)
  deriving Repr, Inhabited

/-- The state at the start of a walk. -/
def Walk.start {ρ σ : Type} (e : ρ) (s : σ) : Walk ρ σ := ⟨e, s, .empty, [], []⟩

/-- An action of a walk. A failure keeps the state that was reached. -/
abbrev Walking (ρ σ α : Type) := ExceptT Failure (StateM (Walk ρ σ)) α

/-- Runs an action. -/
def Walking.runFrom {ρ σ α : Type} (act : Walking ρ σ α) (w : Walk ρ σ) :
    Except Failure α × Walk ρ σ :=
  Id.run (StateT.run (ExceptT.run act) w)

/-- An action that does nothing but give a result or fail. -/
def Walking.ofExcept {ρ σ α : Type} : Except Failure α → Walking ρ σ α
  | .ok x => pure x
  | .error f => throw f

namespace Walking

variable {ρ σ α β : Type}

/-- A failure changes nothing. -/
@[simp] theorem runFrom_throw (f : Failure) (w : Walk ρ σ) :
    (throw f : Walking ρ σ α).runFrom w = (.error f, w) := rfl

/-- Reading the state. -/
@[simp] theorem runFrom_get (w : Walk ρ σ) :
    (get : Walking ρ σ (Walk ρ σ)).runFrom w = (.ok w, w) := rfl

/-- Replacing the state. -/
@[simp] theorem runFrom_set (w v : Walk ρ σ) :
    (set v : Walking ρ σ PUnit).runFrom w = (.ok ⟨⟩, v) := rfl

/-- An action and what follows it: a failure of the first ends both. -/
theorem runFrom_bind (act : Walking ρ σ α) (next : α → Walking ρ σ β) (w : Walk ρ σ) :
    (act >>= next).runFrom w = match act.runFrom w with
      | (.ok x, w) => (next x).runFrom w
      | (.error f, w) => (.error f, w) := by
  change Id.run (StateT.run (ExceptT.run (act >>= next)) w) = _
  simp only [Walking.runFrom, ExceptT.run, bind, ExceptT.bind, ExceptT.mk, StateT.run, StateT.bind,
    ExceptT.bindCont, Id.run]
  rcases h : act w with ⟨r, v⟩
  cases r <;> rfl

/-- An action that only gives a result or fails. -/
@[simp] theorem runFrom_ofExcept (x : Except Failure α) (w : Walk ρ σ) :
    (ofExcept x : Walking ρ σ α).runFrom w = (x, w) := by
  cases x <;> rfl

end Walking

/-! ## 2. One file -/

/-- Hands a file over. No two items have one path. -/
def emit {ρ σ : Type} (sink : Sink σ) (item : Item) (f : GeneratedFile) : Walking ρ σ Unit := do
  let w ← get
  match w.owners.lookup f.path with
  | some first => throw (.collision ⟨f.path, first, item⟩)
  | none =>
    match sink w.sink f with
    | (s, some e) =>
      set { w with sink := s, owners := (f.path, item) :: w.owners }
      throw (.fault e)
    | (s, none) =>
      set { w with sink := s, owners := (f.path, item) :: w.owners, files := w.files ++ [f] }

/-- A path that is taken is not taken again, and nothing reaches the sink. -/
theorem runFrom_emit_taken {ρ σ : Type} {sink : Sink σ} {item first : Item} {f : GeneratedFile}
    {w : Walk ρ σ} (h : w.owners.lookup f.path = some first) :
    (emit sink item f).runFrom w = (.error (.collision ⟨f.path, first, item⟩), w) := by
  simp [emit, Walking.runFrom_bind, h]

/-- A file that is refused is not listed. -/
theorem runFrom_emit_refused {ρ σ : Type} {sink : Sink σ} {item : Item} {f : GeneratedFile}
    {w : Walk ρ σ} {s : σ} {e : Fault} (h : w.owners.lookup f.path = none)
    (hs : sink w.sink f = (s, some e)) :
    (emit sink item f).runFrom w =
      (.error (.fault e), { w with sink := s, owners := (f.path, item) :: w.owners }) := by
  simp [emit, Walking.runFrom_bind, h, hs]

/-- A file that is taken is listed behind the others. -/
theorem runFrom_emit_accepted {ρ σ : Type} {sink : Sink σ} {item : Item} {f : GeneratedFile}
    {w : Walk ρ σ} {s : σ} (h : w.owners.lookup f.path = none)
    (hs : sink w.sink f = (s, none)) :
    (emit sink item f).runFrom w =
      (.ok (), { w with
        sink := s
        owners := (f.path, item) :: w.owners
        files := w.files ++ [f] }) := by
  simp [emit, Walking.runFrom_bind, h, hs]

/-- The text of a template in a context. -/
def renderText {ρ σ : Type} (render : Renderer ρ) (template : Data) (context : Entries) :
    Walking ρ σ String := do
  let w ← get
  let (engine, text) := render w.engine template context
  set { w with engine }
  .ofExcept text

/-- A text that an optional name gives; items of a walk have their names. -/
def Names.ofOption (n : Option Names) : Names := n.getD ⟨"", ""⟩

namespace Generator

variable {ρ σ : Type}

/-- The template of a role. -/
def template (g : Generator) (role : String) : Walking ρ σ Data :=
  .ofExcept (g.config.templateFor role)

/-- A part of an output path that a setting gives. -/
def settingPath (parts : List Data) : Walking ρ σ String :=
  .ofExcept ((joinParts parts).mapError .fault)

/-! ## 3. Aggregates and entities -/

/-- The file of an entity. -/
def emitEntity (g : Generator) (render : Renderer ρ) (sink : Sink σ) (aggregateContext : Data)
    (e : Entity) : Walking ρ σ Unit := do
  let names := Names.ofOption e.names
  let folder := (g.policyOf e.kind).folder
  let path := joinPath [folder, names.fileName]
  let template ← g.template e.kind.text
  let content ← renderText render template (Model.entityContext e aggregateContext)
  emit sink e.item ⟨path, content, some names.className⟩
  let w ← get
  match w.registry.register e.kind folder ⟨names.className, names.fileName, path⟩ with
  | .ok registry => set { w with registry }
  | .error problem => throw (.registry problem)

/-- The context of an aggregate. -/
def aggregateContext (g : Generator) (modelContext : Data) (a : Aggregate) : Entries :=
  (Model.aggregateContext a modelContext).set "kindPaths" (.mapping g.kindPaths)

/-- The files of an aggregate and its entities. -/
def emitAggregate (g : Generator) (render : Renderer ρ) (sink : Sink σ) (modelContext : Data)
    (a : Aggregate) : Walking ρ σ Unit := do
  let names := Names.ofOption a.names
  let context := g.aggregateContext modelContext a
  let path := joinPath [g.aggregate.folder, names.fileName]
  let template ← g.template aggregateRole
  let content ← renderText render template context
  emit sink a.item ⟨path, content, some names.className⟩
  a.entities.forM (g.emitEntity render sink (.mapping context))

/-! ## 4. Indexes -/

/-- The index of a kind. -/
def emitKindIndex (g : Generator) (render : Renderer ρ) (sink : Sink σ) (template : Data)
    (c : Collection) : Walking ρ σ Unit := do
  let content ← renderText render template c.context
  let path ← settingPath [.text c.folder, g.config.subModuleName]
  emit sink (.kindIndex c.kind) ⟨path, content, none⟩

/-- The context of the index of the kinds. -/
def rootContext (collections : List Collection) : Entries :=
  Entries.ofFields [("items", .list (collections.map fun c =>
    .mapping (Entries.ofFields [("className", .text c.kind.text), ("fileName", .text c.folder)])))]

/-- The index of the kinds. Without any it is written only if the configuration says so. -/
def emitRootIndex (g : Generator) (render : Renderer ρ) (sink : Sink σ)
    (collections : List Collection) : Walking ρ σ Unit := do
  if !collections.isEmpty || g.config.emitEmptyRootIndex.isTrue then
    let template ← g.template rootModuleRole
    let content ← renderText render template (rootContext collections)
    let path ← settingPath [g.config.rootModuleName]
    emit sink .rootIndex ⟨path, content, none⟩

/-! ## 5. The walk -/

/-- The files of a model whose items have their names. -/
def walk (g : Generator) (render : Renderer ρ) (sink : Sink σ) (m : Model) : Walking ρ σ Unit := do
  let modelContext := Data.mapping m.context
  m.aggregates.forM (g.emitAggregate render sink modelContext)
  let template ← g.template subModuleRole
  let collections := (← get).registry.collections
  collections.forM (g.emitKindIndex render sink template)
  g.emitRootIndex render sink collections

end Generator

/-- What a walk has generated. -/
structure Generated where
  /-- The files, in order. -/
  files : List GeneratedFile
  /-- Where the model comes from. -/
  source : Option String
  /-- How many aggregates there are. -/
  aggregates : Nat
  /-- How many entities there are of each kind that has any. -/
  kinds : List (Kind × Nat)
  deriving Repr, Inhabited

/-- What is known about a walk, as plain data. -/
def Generated.metadata (r : Generated) : Entries :=
  Entries.ofFields [("source", .ofOption r.source), ("aggregates", .int r.aggregates),
    ("files", .int r.files.length),
    ("kinds", .mapping (Entries.ofFields (r.kinds.map fun (k, n) => (k.text, .int n))))]

/-- What a walk over a model leaves behind. -/
structure WalkResult (ρ σ : Type) where
  /-- The model, with the names its items were given. -/
  model : Model
  /-- The state of what renders. -/
  engine : ρ
  /-- The state of the sink. -/
  sink : σ
  /-- What was generated, or why the walk ended. -/
  outcome : Except Failure Generated

/-- Generates all files of a model. -/
def Generator.generate {ρ σ : Type} (g : Generator) (render : Renderer ρ) (sink : Sink σ)
    (m : Model) (e : ρ) (s : σ) : WalkResult ρ σ :=
  match g.nameModel m with
  | (m, some problem) => ⟨m, e, s, .error (.model problem)⟩
  | (m, none) =>
    let (result, w) := (g.walk render sink m).runFrom (.start e s)
    ⟨m, w.engine, w.sink, result.map fun _ =>
      ⟨w.files, m.source, m.aggregates.length,
        w.registry.collections.map fun c => (c.kind, c.items.length)⟩⟩

end DomainGen
