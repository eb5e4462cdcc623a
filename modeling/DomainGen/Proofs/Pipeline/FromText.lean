import DomainGen.Generation.FromText
import DomainGen.Proofs.Pipeline.Isolation

/-!
# Texts without a pipeline

The files of a text can be generated without a pipeline: with an engine that has read nothing yet,
into a memory, up to the first failure. A pipeline of the same configuration has read its templates
before, hands files to a recording or holds them back, and turns failures into outcomes. What comes
of a text is the same, whatever renders the templates, if only it is steady.

* `generateText_eq` : a text without a pipeline is an attempt with a new state;
* `process_memory` : what a pipeline makes of an attempt, in either mode;
* `Later.generateText_process` : **a text gives the same files or fails alike with and without a
  pipeline**; `generateFromText_process` : so it does with template engines.
-/

namespace DomainGen

/-! ## 1. Without a pipeline -/

/-- The result of an attempt into a memory: its files, unless it failed. -/
def Pipeline.Attempt.result {ρ : Type} (a : Pipeline.Attempt ρ (List GeneratedFile)) :
    Except Failure (List GeneratedFile) :=
  match a.failure with
  | some f => .error f
  | none => .ok a.sink

section

variable {ρ : Type} {a : Pipeline.Attempt ρ (List GeneratedFile)}

theorem Pipeline.Attempt.result_eq_ok {files : List GeneratedFile} :
    a.result = .ok files ↔ a.failure = none ∧ a.sink = files := by
  unfold result
  cases a.failure with
  | some f => simp
  | none => simp

theorem Pipeline.Attempt.result_eq_error {f : Failure} : a.result = .error f ↔ a.failure = some f := by
  unfold result
  cases a.failure with
  | some f => simp
  | none => simp

end

variable {ρ : Type} {tree : FileTree} {c : Config} {e : Engine} {g : Generator}

/-- **A text without a pipeline is an attempt** with the state that it is rendered in. -/
theorem generateText_eq (g : Generator) (render : Renderer ρ) (engine : ρ) (text source : String) :
    g.generateText render engine text source =
      (Pipeline.attempt ⟨g, render, engine⟩ memorySink ⟨source, text⟩ []).result := by
  unfold Generator.generateText Pipeline.attempt
  dsimp only [bind, Except.bind]
  cases readDocument text source with
  | error f => rfl
  | ok value =>
      dsimp only
      cases Model.ofDocument value (some source) with
      | error f => rfl
      | ok m =>
          dsimp only
          cases (g.generate render memorySink m engine []).outcome with
          | error f => rfl
          | ok generated => rfl

theorem generateFromText_eq (he : Pipeline.engineOf tree c = .ok e)
    (hg : Generator.ofConfig tree.workingFolder c = .ok g) (text source : String) :
    generateFromText tree c text source = g.generateText (engineRenderer tree) e text source := by
  unfold generateFromText
  rw [he, hg]
  rfl

/-! ## 2. With a pipeline -/

namespace Pipeline

variable {p q : Pipeline ρ} {R : ρ → ρ → Prop}

/-- A pipeline is set up exactly if its engine is, and it is set up over that engine. -/
theorem ofConfig_eq_ok {p : Pipeline Engine} : ofConfig tree c = .ok p ↔
    ∃ e, engineOf tree c = .ok e ∧ ofEngine tree c e = .ok p := by
  unfold ofConfig
  rw [except_bind_eq_ok]
  simp only [except_mapError_eq_ok]

/-- A recording in front of a memory does what the memory does. -/
theorem attempt_recording (p : Pipeline ρ) (d : InputDocument) :
    (p.attempt (recordingSink memorySink) d ⟨[], []⟩).failure =
        (p.attempt memorySink d []).failure ∧
      (p.attempt (recordingSink memorySink) d ⟨[], []⟩).sink.files =
        (p.attempt memorySink d []).sink := by
  have hsinks : Sink.Agree (fun r kept => r.files = kept) (recordingSink memorySink) memorySink :=
    Sink.agree_acceptsAll (Sink.recordingSink_acceptsAll Sink.memorySink_acceptsAll)
      Sink.memorySink_acceptsAll (Sink.recordingSink_keeps memorySink) Sink.memorySink_keeps
  obtain ⟨hfailure, -, hfiles⟩ := attempt_agree hsinks (.refl p) d (s := ⟨[], []⟩) (t := []) rfl
  exact ⟨hfailure, hfiles⟩

/-- The outcome of a direct pipeline into a memory is that of the attempt. -/
theorem processDirectly_memory (p : Pipeline ρ) (d : InputDocument) :
    (p.processDirectly memorySink d []).2.2 = match (p.attempt memorySink d []).failure with
      | some f => .failed d (p.attempt memorySink d []).sink f
      | none => .generated d (p.attempt memorySink d []).sink := by
  obtain ⟨hfailure, hfiles⟩ := p.attempt_recording d
  cases hf : (p.attempt memorySink d []).failure with
  | some f => rw [processDirectly_failed (hfailure.trans hf), hfiles]
  | none => rw [processDirectly_generated (hfailure.trans hf), hfiles]

/-- **What a pipeline makes of an attempt** into a memory, in either mode. -/
theorem process_memory (p : Pipeline ρ) (d : InputDocument) : ∃ v o,
    (Stream.start p []).process memorySink (some d) = (v, .ok o) ∧
      o.failure = (p.attempt memorySink d []).failure ∧
      ((o.failure = none ∧ o.status = .generated ∧ o.files = (p.attempt memorySink d []).sink ∧
          v.sink = o.files) ∨ (o.status = .failed ∧ ∃ f, o.failure = some f)) := by
  have hdirect := p.processDirectly_memory d
  cases ha : p.config.atomic.isTrue with
  | false =>
      have hkept := p.processDirectly_kept Sink.memorySink_keeps d []
      have hprocess : (Stream.start p []).process memorySink (some d) = _ :=
        Stream.process_direct (w := .start p []) ha d
      unfold Stream.start at hprocess
      cases hf : (p.attempt memorySink d []).failure with
      | some f =>
          rw [hf] at hdirect
          dsimp only at hdirect
          rw [hdirect, Stream.after_ok] at hprocess
          exact ⟨_, _, hprocess, rfl, Or.inr ⟨rfl, f, rfl⟩⟩
      | none =>
          rw [hf] at hdirect
          dsimp only at hdirect
          rw [hdirect] at hkept
          rw [hdirect, Stream.after_ok] at hprocess
          exact ⟨_, _, hprocess, rfl, Or.inl ⟨rfl, rfl, rfl, hkept⟩⟩
  | true =>
      obtain ⟨engine, u, x, hx, -, hstatus, hfailure, hleft⟩ := p.processAtomically_direct
        Sink.memorySink_acceptsAll Sink.memorySink_acceptsAll Sink.memorySink_keeps d [] []
      have hprocess : (Stream.start p []).process memorySink (some d) = _ :=
        Stream.process_atomic (w := .start p []) ha d
      unfold Stream.start at hprocess
      rw [hx, Stream.after_ok] at hprocess
      rw [hdirect] at hstatus hfailure hleft
      refine ⟨_, x, hprocess, ?_⟩
      cases hf : (p.attempt memorySink d []).failure with
      | some f =>
          rw [hf] at hstatus hfailure
          exact ⟨hfailure, Or.inr ⟨hstatus, f, hfailure⟩⟩
      | none =>
          rw [hf] at hstatus hfailure hleft
          rcases hleft with ⟨_, hfiles, hu⟩ | ⟨hfailed, _⟩
          · exact ⟨hfailure, Or.inl ⟨hfailure, hstatus, hfiles, hu⟩⟩
          · cases hstatus.symm.trans hfailed

/-! ## 3. Main result -/

/-- **A text gives the same files or fails alike with and without a pipeline**, whatever renders the
    templates. The pipeline may have processed other items and may be atomic or not; without it the text
    is rendered in any state that is as good as the first one of the pipeline. -/
theorem Later.generateText_process (hq : p.Later q) (hp : Renderer.Steady R p.render) {engine : ρ}
    (he : R engine p.engine) (text source : String) : ∃ v o,
    (Stream.start q []).process memorySink (some ⟨source, text⟩) = (v, .ok o) ∧
      (∀ files, p.generator.generateText p.render engine text source = .ok files ↔
        o.status = .generated ∧ o.files = files ∧ v.sink = files) ∧
      ∀ f, p.generator.generateText p.render engine text source = .error f ↔
        o.status = .failed ∧ o.failure = some f := by
  have hused := hq.alike hp
  have hnew : Alike R (withAtomic ⟨p.generator, p.render, engine⟩ q.config.atomic) q :=
    ⟨hused.generator_eq, hused.render, hp.equivalence.trans he hused.engine⟩
  obtain ⟨hfailure, -, hsink⟩ := attempt_agree (Sink.agree_self memorySink) hnew
    ⟨source, text⟩ (s := []) rfl
  rw [attempt_withAtomic] at hfailure hsink
  have hresult := generateText_eq p.generator p.render engine text source
  obtain ⟨v, o, hprocess, hsame, houtcome⟩ := q.process_memory ⟨source, text⟩
  refine ⟨v, o, hprocess, fun files => ?_, fun f => ?_⟩
  · rw [hresult, Attempt.result_eq_ok, hfailure, hsink, ← hsame]
    rcases houtcome with ⟨hnone, hstatus, hfiles, hv⟩ | ⟨hstatus, f, hf⟩
    · rw [hnone, hstatus, hv, hfiles]
      simp
    · rw [hf, hstatus]
      simp
  · rw [hresult, Attempt.result_eq_error, hfailure, ← hsame]
    rcases houtcome with ⟨hnone, hstatus, _, _⟩ | ⟨hstatus, _, hf⟩
    · rw [hnone, hstatus]
      simp
    · rw [hf, hstatus]
      simp

/-- **A text gives the same files or fails alike with and without a pipeline.** Where a pipeline can
    be set up, it answers every document it is given with a memory, atomic or not, and also after it
    has processed other items. Its outcome is that the document is generated exactly if the text
    gives files without a pipeline, and these are the files of the outcome and of the memory;
    otherwise the text fails without a pipeline, and with the failure of the outcome. -/
theorem generateFromText_process {p q : Pipeline Engine} (h : ofConfig tree c = .ok p)
    (hq : p.Later q) (text source : String) : ∃ v o,
    (Stream.start q []).process memorySink (some ⟨source, text⟩) = (v, .ok o) ∧
      (∀ files, generateFromText tree c text source = .ok files ↔
        o.status = .generated ∧ o.files = files ∧ v.sink = files) ∧
      ∀ f, generateFromText tree c text source = .error f ↔
        o.status = .failed ∧ o.failure = some f := by
  obtain ⟨e, he, hp⟩ := ofConfig_eq_ok.mp h
  obtain ⟨_, hg, _, _, hrender⟩ := ofEngine_eq_ok.mp hp
  rw [generateFromText_eq he hg, ← hrender]
  -- the engine that has read nothing gives the same templates as that of the pipeline
  exact hq.generateText_process (hrender ▸ engineRenderer_steady tree) (engine_ofEngine hp) text source

end Pipeline

/-! ## 4. Templates in a folder -/

/-- A folder with a template for each role. -/
def sketchTree : FileTree where
  nodes := (["t"], .folder) ::
    ["aggregate", "command", "event", "fault", "module"].map fun name =>
      (["t", name ++ ".j2"], .file (Utf8.encode name.toList))
  workingFolder := []

/-- A configuration with no templates but those of the folder. -/
def sketchConfig : Config :=
  { Config.standard with templateSet := .null, templateDir := .text "t" }

/-- Behind two documents that have failed, and held back as a whole, a document gives the files that
    its text gives alone; and a document with one path for two aggregates fails as its text does. -/
theorem generateFromText_process_placed : ∃ (p : Pipeline Engine)
    (v w : Stream Engine (List GeneratedFile)) (o x : Outcome) (f : Failure),
    Pipeline.ofConfig sketchTree sketchConfig = .ok p ∧
    (Stream.start (p.usedAtomic failingItems) []).process memorySink (some placedInput) =
      (v, .ok o) ∧
    generateFromText sketchTree sketchConfig placedInput.text placedInput.source = .ok v.sink ∧
    o.files = v.sink ∧ v.sink.map (·.path) =
      ["aggregates/order-aggregate.js", "events/placed-event.js", "events/index.js", "index.js"] ∧
    (Stream.start (p.usedAtomic failingItems) []).process memorySink (some twinsInput) =
      (w, .ok x) ∧
    generateFromText sketchTree sketchConfig twinsInput.text twinsInput.source = .error f ∧
    x.failure = some f := by
  have hplaced : ((generateFromText sketchTree sketchConfig placedInput.text
      placedInput.source).toOption.map fun files => files.map (·.path)) =
        some ["aggregates/order-aggregate.js", "events/placed-event.js", "events/index.js",
          "index.js"] := by
    decide +kernel
  have htwins : (generateFromText sketchTree sketchConfig twinsInput.text
      twinsInput.source).toOption = none := by
    decide +kernel
  obtain ⟨p, hp⟩ : ∃ p, Pipeline.ofConfig sketchTree sketchConfig = .ok p :=
    exists_ok_of_isSome (by decide +kernel)
  have hq : p.Later (p.usedAtomic failingItems) :=
    (Pipeline.Later.processList memorySink failingItems (w := .start p []) .now).switched _
  obtain ⟨v, o, hv, hfiles, _⟩ :=
    Pipeline.generateFromText_process hp hq placedInput.text placedInput.source
  obtain ⟨w, x, hw, _, hfailure⟩ :=
    Pipeline.generateFromText_process hp hq twinsInput.text twinsInput.source
  cases hgiven : generateFromText sketchTree sketchConfig placedInput.text placedInput.source with
  | error f =>
      rw [hgiven] at hplaced
      cases hplaced
  | ok files =>
      rw [hgiven] at hplaced
      obtain ⟨_, hlisted, hsink⟩ := (hfiles files).mp hgiven
      cases hfailed : generateFromText sketchTree sketchConfig twinsInput.text
          twinsInput.source with
      | ok files =>
          rw [hfailed] at htwins
          cases htwins
      | error f =>
          refine ⟨p, v, w, o, x, f, hp, hv, ?_, hlisted.trans hsink.symm, ?_, hw, rfl,
            ((hfailure f).mp hfailed).2⟩
          · rw [hsink]
          · rw [hsink]
            exact Option.some.inj hplaced

end DomainGen
