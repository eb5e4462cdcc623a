import DomainGen.Document
import DomainGen.Generation.Walk
import DomainGen.Model.Reading

/-!
# Pipelines

A pipeline takes documents, one after the other, to a sink. A document that fails is reported and
left behind; the next one is processed all the same. What renders the templates is part of a pipeline:
for those that are set up it is a template engine over some files.

* `Pipeline.ofConfig` : setting up. All templates are read here, so that a pipeline that exists has
  every template it needs;
* `Pipeline.attempt` : one document, up to its first failure;
* `Stream.process`, `Stream.processAll` : documents with their outcomes and the failures reported.

An atomic pipeline holds back the files of a document until all of them are generated. What it
passes on then is no longer guarded: a sink that refuses a file at that point ends the whole run.
-/

namespace DomainGen

/-! ## 1. Documents and outcomes -/

/-- A document that enters a pipeline. -/
structure InputDocument where
  /-- Where it comes from. -/
  source : String
  /-- The YAML text. -/
  text : String
  deriving DecidableEq, Repr, Inhabited

/-- What happened to an item. -/
inductive Status where
  | generated
  | failed
  | skipped
  deriving DecidableEq, Repr, Inhabited

/-- How a status is called. -/
def Status.text : Status → String
  | generated => "generated"
  | failed => "failed"
  | skipped => "skipped"

/-- The outcome of an item. -/
structure Outcome where
  /-- Where the document comes from; an item without a document has no source. -/
  source : Option String
  /-- What happened. -/
  status : Status
  /-- The files that reached the sink. -/
  files : List GeneratedFile
  /-- Why the document failed, if it did. -/
  failure : Option Failure
  deriving Repr, Inhabited

/-- Is it anything but a failure? -/
def Outcome.ok (o : Outcome) : Bool := o.status != .failed

/-- The outcome of an item without a document. -/
def Outcome.skipped : Outcome := ⟨none, .skipped, [], none⟩

/-- The outcome of a document whose files were generated. -/
def Outcome.generated (d : InputDocument) (files : List GeneratedFile) : Outcome :=
  ⟨some d.source, .generated, files, none⟩

/-- The outcome of a document that failed, with the files that got through before. -/
def Outcome.failed (d : InputDocument) (files : List GeneratedFile) (f : Failure) : Outcome :=
  ⟨some d.source, .failed, files, some f⟩

/-- The outcomes of a run, in order. -/
structure Report where
  /-- One outcome for each item. -/
  outcomes : List Outcome
  deriving Repr, Inhabited

namespace Report

/-- The documents whose files were generated. -/
def succeeded (r : Report) : List Outcome := r.outcomes.filter (·.status == .generated)

/-- The documents that failed. -/
def failed (r : Report) : List Outcome := r.outcomes.filter (·.status == .failed)

/-- How many files reached the sink. -/
def filesWritten (r : Report) : Nat := (r.outcomes.flatMap (·.files)).length

/-- Did no document fail? -/
def ok (r : Report) : Bool := r.failed.isEmpty

end Report

/-! ## 2. Setting up -/

/-- A pipeline. -/
structure Pipeline (ρ : Type) where
  /-- The generator. -/
  generator : Generator
  /-- How templates are rendered. -/
  render : Renderer ρ
  /-- The state of what renders them. -/
  engine : ρ

/-- An error of the templates counts as one of the configuration that names them. -/
def Failure.ofSetup : Failure → Failure
  | .template e => .config (.templates e)
  | f => f

namespace Pipeline

/-- The configuration. -/
def config {ρ : Type} (p : Pipeline ρ) : Config := p.generator.config

/-- Each of some names once, at the place of its first occurrence. Every name must be one that can
    be looked up. -/
def distinct : List Data → (seen : List Data) → Except Fault (List Data)
  | [], seen => .ok seen
  | name :: rest, seen =>
    if !name.hashable then .error .wrongKind
    else if seen.any fun d => d.equal name then distinct rest seen
    else distinct rest (seen ++ [name])

/-- The names the engine has no source for. -/
def missing (tree : FileTree) (e : Engine) : List Data → Except Failure (List Data)
  | [] => .ok []
  | name :: rest => do
    let found ← e.provides tree name
    let others ← missing tree e rest
    return if found then others else name :: others

/-- The name of a template as messages list it; it must be a text. -/
def listed : Data → Except Fault String
  | .text s => .ok s
  | _ => .error .wrongKind

/-- The engine with all templates of a list read. Templates that are not there are found before any
    is read, and all of them are named. -/
def readTemplates (tree : FileTree) (e : Engine) (required : List Data) :
    Except Failure Engine := do
  let names ← (distinct required []).mapError .fault
  let gone ← missing tree e names
  if !gone.isEmpty then
    throw (.template (.missing (← (gone.mapM listed).mapError .fault)))
  let (e, read) := Engine.compileAll tree e required []
  let read ← read
  let _ ← (read.mapM listed).mapError .fault
  return e

/-- The pipeline of a configuration over a given engine. -/
def ofEngine (tree : FileTree) (c : Config) (e : Engine) : Except Failure (Pipeline Engine) := do
  let g ← Generator.ofConfig tree.workingFolder c
  let required ← g.requiredTemplates
  let e ← (readTemplates tree e required).mapError Failure.ofSetup
  return ⟨g, engineRenderer tree, e⟩

/-- The template engine a configuration asks for. -/
def engineOf (tree : FileTree) (c : Config) : Except Failure Engine :=
  Engine.ofSettings tree c.templateSet c.templateDir [] c.templateEncoding

/-- The pipeline of a configuration. -/
def ofConfig (tree : FileTree) (c : Config) : Except Failure (Pipeline Engine) := do
  ofEngine tree c (← (engineOf tree c).mapError Failure.ofSetup)

/-! ## 3. One document -/

/-- What an attempt leaves behind. -/
structure Attempt (ρ σ : Type) where
  /-- The state of what renders the templates. -/
  engine : ρ
  /-- The state of the sink. -/
  sink : σ
  /-- Why the attempt ended early, if it did. -/
  failure : Option Failure
  deriving Repr, Inhabited

/-- Reads a document and generates its files, up to the first failure. -/
def attempt {ρ σ : Type} (p : Pipeline ρ) (sink : Sink σ) (d : InputDocument) (s : σ) :
    Attempt ρ σ :=
  match readDocument d.text d.source with
  | .error f => ⟨p.engine, s, some f⟩
  | .ok value => match Model.ofDocument value (some d.source) with
    | .error f => ⟨p.engine, s, some f⟩
    | .ok m =>
      let r := p.generator.generate p.render sink m p.engine s
      match r.outcome with
      | .ok _ => ⟨r.engine, r.sink, none⟩
      | .error f => ⟨r.engine, r.sink, some f⟩

/-- Processes a document; its files go to the sink as they are generated. -/
def processDirectly {ρ σ : Type} (p : Pipeline ρ) (sink : Sink σ) (d : InputDocument) (s : σ) :
    ρ × σ × Outcome :=
  let a := p.attempt (recordingSink sink) d ⟨s, []⟩
  match a.failure with
  | some f => (a.engine, a.sink.target, .failed d a.sink.files f)
  | none => (a.engine, a.sink.target, .generated d a.sink.files)

/-- Processes a document; its files go to the sink once all of them are generated. -/
def processAtomically {ρ σ : Type} (p : Pipeline ρ) (sink : Sink σ) (d : InputDocument) (s : σ) :
    ρ × σ × Except Fault Outcome :=
  let a := p.attempt bufferedSink d (⟨⟨s, []⟩, []⟩ : Buffered (Recorded σ))
  match a.failure with
  | some f =>
    let (b, _) := discard a.sink
    (a.engine, b.target.target, .ok (.failed d b.target.files f))
  | none =>
    let (b, sent) := flush (recordingSink sink) a.sink
    (a.engine, b.target.target, sent.map fun _ => .generated d b.target.files)

end Pipeline

/-! ## 4. Streams of documents -/

/-- A pipeline at work. -/
structure Stream (ρ σ : Type) where
  /-- The pipeline. -/
  pipeline : Pipeline ρ
  /-- The state of the sink. -/
  sink : σ
  /-- The failures reported so far, each with the source of its document. -/
  reported : List (Option String × Failure)

namespace Stream

variable {ρ σ : Type}

/-- A pipeline that starts with a sink. -/
def start (p : Pipeline ρ) (s : σ) : Stream ρ σ := ⟨p, s, []⟩

/-- The stream after an outcome, with its failure reported. -/
def after (w : Stream ρ σ) (engine : ρ) (s : σ) (outcome : Except Fault Outcome) :
    Stream ρ σ × Except Fault Outcome :=
  let reported := match outcome with
    | .ok o => (o.failure.map fun f => (o.source, f)).toList
    | .error _ => []
  (⟨{ w.pipeline with engine }, s, w.reported ++ reported⟩, outcome)

/-- Processes an item. An item without a document is passed over. Only an atomic pipeline can fail
    here, when the sink refuses a file that was held back. -/
def process (sink : Sink σ) (w : Stream ρ σ) :
    Option InputDocument → Stream ρ σ × Except Fault Outcome
  | none => (w, .ok .skipped)
  | some d =>
    if w.pipeline.config.atomic.isTrue then
      let (engine, s, outcome) := w.pipeline.processAtomically sink d w.sink
      w.after engine s outcome
    else
      let (engine, s, outcome) := w.pipeline.processDirectly sink d w.sink
      w.after engine s (.ok outcome)

/-- Processes items in order; the outcomes, unless one of them ended the run. -/
def processList (sink : Sink σ) : Stream ρ σ → List (Option InputDocument) →
    Stream ρ σ × Except Fault (List Outcome)
  | w, [] => (w, .ok [])
  | w, item :: rest => match w.process sink item with
    | (w, .error f) => (w, .error f)
    | (w, .ok o) =>
      let (w, others) := processList sink w rest
      (w, others.map (o :: ·))

/-- Processes items in order. -/
def processAll (sink : Sink σ) (w : Stream ρ σ) (items : List (Option InputDocument)) :
    Stream ρ σ × Except Fault Report :=
  let (w, outcomes) := processList sink w items
  (w, outcomes.map Report.mk)

end Stream

/-! ## 5. Small facts -/

/-- An item without a document changes nothing. -/
@[simp] theorem Stream.process_none {ρ σ : Type} (sink : Sink σ) (w : Stream ρ σ) :
    w.process sink none = (w, .ok .skipped) := rfl

/-- A report is fine exactly if it lists no failure. -/
theorem Report.ok_iff (r : Report) : r.ok = true ↔ r.failed = [] := by
  simp [Report.ok]

end DomainGen
