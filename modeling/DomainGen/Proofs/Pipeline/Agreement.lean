import DomainGen.Proofs.Generation.Agreement
import DomainGen.Proofs.Pipeline.Host
import DomainGen.Proofs.Template.Cache

/-!
# Pipelines that agree

Of a pipeline only the state of its renderer changes while documents are processed. Pipelines whose
renderers agree, in states that belong together, do the same with every document, into sinks that agree;
and if the sinks part at some file, that can be seen behind the document. A template engine is such a
renderer: engines that give the same templates belong together, and they stay so when they render.

* `Pipeline.Alike` : pipelines that differ in what renders their templates, and agree in what it gives;
* `attempt_agreeUntil` : **attempts end alike, into any sinks that agree**, unless these part;
* `process_agreeUntil` : so does processing an item in streams that are related;
  `process_alike` : and so it does into one sink; `Run.agree` : so do whole runs;
* `engineRenderer_agree`, `ofEngine_alike` : engines that are alike give pipelines that are alike.
-/

namespace DomainGen

variable {ρ ρ' σ τ : Type} {R : ρ → ρ' → Prop} {S B : σ → τ → Prop} {sink : Sink σ}
  {other : Sink τ}

/-! ## 1. Sinks in front of others -/

namespace Sink

/-- Recordings agree as the sinks behind them do, and list the same files. -/
theorem AgreeUntil.recording (hs : AgreeUntil S B sink other) :
    AgreeUntil (fun r r' => S r.target r'.target ∧ r.files = r'.files)
      (fun r r' => B r.target r'.target) (recordingSink sink) (recordingSink other) where
  agree {r r'} hr f := by
    have hfile := hs.agree hr.1 f
    unfold recordingSink
    rcases hp : sink r.target f with ⟨s, _ | fault⟩ <;>
      rcases hq : other r'.target f with ⟨t, _ | fault'⟩ <;> rw [hp, hq] at hfile
    · exact hfile.imp_right fun h => ⟨⟨h.1, congrArg (· ++ [f]) hr.2⟩, rfl⟩
    · exact hfile.imp_right fun h => by cases h.2
    · exact hfile.imp_right fun h => by cases h.2
    · exact hfile.imp_right fun h => ⟨⟨h.1, hr.2⟩, h.2⟩
  left {r r'} hb f := by
    rw [target_recordingSink]
    exact hs.left hb f
  right {r r'} hb f := by
    rw [target_recordingSink]
    exact hs.right hb f

/-- Buffers in front of related sinks agree, and hold back the same files. -/
theorem buffered_agree (S : σ → τ → Prop) :
    Agree (fun b b' => S b.target b'.target ∧ b.pending = b'.pending) bufferedSink bufferedSink :=
  fun _ _ hb f => ⟨⟨hb.1, congrArg (· ++ [f]) hb.2⟩, rfl⟩

/-- **Passing files on ends alike with sinks that agree**, unless they part. -/
theorem AgreeUntil.forward (hs : AgreeUntil S B sink other) :
    ∀ (files : List GeneratedFile) {s : σ} {t : τ}, S s t →
      B (forward sink s files).1 (forward other t files).1 ∨
        S (forward sink s files).1 (forward other t files).1 ∧
          (forward sink s files).2 = (forward other t files).2
  | [], _, _, hst => Or.inr ⟨hst, rfl⟩
  | f :: rest, s, t, hst => by
      have hleft : ∀ {u t}, B u t → B (DomainGen.forward sink u rest).1 t := fun {_ t} hb =>
        forward_sink_induct (I := fun s => B s t) (fun _ f hb => hs.left hb f) rest hb
      have hright : ∀ {s v}, B s v → B s (DomainGen.forward other v rest).1 := fun {s _} hb =>
        forward_sink_induct (I := fun t => B s t) (fun _ f hb => hs.right hb f) rest hb
      have hfile := hs.agree hst f
      unfold DomainGen.forward
      rcases hp : sink s f with ⟨u, _ | e⟩ <;> rcases hq : other t f with ⟨v, _ | e'⟩ <;>
        rw [hp, hq] at hfile
      · rcases hfile with hparted | ⟨hstate, _⟩
        · exact Or.inl (hleft (hright hparted))
        · exact (hs.forward rest hstate).imp_right fun h =>
            ⟨h.1, congrArg (fun r => (r.1, r.2.map (· + 1))) h.2⟩
      · exact hfile.imp hleft fun h => by cases h.2
      · exact hfile.imp hright fun h => by cases h.2
      · refine hfile.imp_right fun h => ⟨h.1, ?_⟩
        cases h.2
        rfl

end Sink

namespace Pipeline

/-- Two pipelines have the same settings, and renderers that agree, in states that belong together. -/
structure Alike (R : ρ → ρ' → Prop) (p : Pipeline ρ) (q : Pipeline ρ') : Prop where
  generator_eq : p.generator = q.generator
  render : Renderer.Agree R p.render q.render
  engine : R p.engine q.engine

theorem Alike.refl (p : Pipeline ρ) : p.Alike (· = ·) p := ⟨rfl, p.render.agree_self, rfl⟩

section Alike

variable {p : Pipeline ρ} {q : Pipeline ρ'}

/-! ## 2. One document -/

/-- **Attempts end alike** in pipelines that are alike, into sinks that agree, unless these part. -/
theorem attempt_agreeUntil (hs : Sink.AgreeUntil S B sink other) (h : p.Alike R q)
    (d : InputDocument) {s : σ} {t : τ} (hst : S s t) :
    B (p.attempt sink d s).sink (q.attempt other d t).sink ∨
      (p.attempt sink d s).failure = (q.attempt other d t).failure ∧
      R (p.attempt sink d s).engine (q.attempt other d t).engine ∧
      S (p.attempt sink d s).sink (q.attempt other d t).sink := by
  unfold attempt
  split
  · exact Or.inr ⟨rfl, h.engine, hst⟩
  · split
    · exact Or.inr ⟨rfl, h.engine, hst⟩
    · rename_i m hm
      have hwalk := generate_agreeUntil h.render hs p.generator (fresh_ofDocument hm) h.engine hst
      rw [← h.generator_eq]
      dsimp only
      generalize p.generator.generate p.render sink m p.engine s = r at hwalk ⊢
      generalize p.generator.generate q.render other m q.engine t = r' at hwalk ⊢
      rcases hwalk with hparted | ⟨houtcome, hengine, hsink⟩
      · left
        cases r.outcome <;> cases r'.outcome <;> exact hparted
      · right
        rw [houtcome]
        cases r'.outcome <;> exact ⟨rfl, hengine, hsink⟩

/-- Into sinks that never part, attempts end alike. -/
theorem attempt_agree (hs : Sink.Agree S sink other) (h : p.Alike R q) (d : InputDocument) {s : σ}
    {t : τ} (hst : S s t) :
    (p.attempt sink d s).failure = (q.attempt other d t).failure ∧
    R (p.attempt sink d s).engine (q.attempt other d t).engine ∧
    S (p.attempt sink d s).sink (q.attempt other d t).sink :=
  (attempt_agreeUntil hs.until h d hst).resolve_left id

theorem processDirectly_agreeUntil (hs : Sink.AgreeUntil S B sink other) (h : p.Alike R q)
    (d : InputDocument) {s : σ} {t : τ} (hst : S s t) :
    B (p.processDirectly sink d s).2.1 (q.processDirectly other d t).2.1 ∨
      R (p.processDirectly sink d s).1 (q.processDirectly other d t).1 ∧
      S (p.processDirectly sink d s).2.1 (q.processDirectly other d t).2.1 ∧
      (p.processDirectly sink d s).2.2 = (q.processDirectly other d t).2.2 := by
  have hattempt := attempt_agreeUntil hs.recording h d (s := ⟨s, []⟩) (t := ⟨t, []⟩) ⟨hst, rfl⟩
  unfold processDirectly
  dsimp only
  generalize p.attempt (recordingSink sink) d ⟨s, []⟩ = a at hattempt ⊢
  generalize q.attempt (recordingSink other) d ⟨t, []⟩ = b at hattempt ⊢
  rcases hattempt with hparted | ⟨hfailure, hengine, hsink, hfiles⟩
  · left
    cases a.failure <;> cases b.failure <;> exact hparted
  · right
    rw [hfailure, hfiles]
    cases b.failure <;> exact ⟨hengine, hsink, rfl⟩

theorem processAtomically_agreeUntil (hs : Sink.AgreeUntil S B sink other) (h : p.Alike R q)
    (d : InputDocument) {s : σ} {t : τ} (hst : S s t) :
    B (p.processAtomically sink d s).2.1 (q.processAtomically other d t).2.1 ∨
      R (p.processAtomically sink d s).1 (q.processAtomically other d t).1 ∧
      S (p.processAtomically sink d s).2.1 (q.processAtomically other d t).2.1 ∧
      (p.processAtomically sink d s).2.2 = (q.processAtomically other d t).2.2 := by
  -- nothing can part the sinks while the files are held back
  obtain ⟨hfailure, hengine, ⟨htarget, htaken⟩, hpending⟩ := attempt_agree
    (Sink.buffered_agree fun r r' : Recorded _ => S r.target r'.target ∧ r.files = r'.files) h d
    (s := ⟨⟨s, []⟩, []⟩) (t := ⟨⟨t, []⟩, []⟩) ⟨⟨hst, rfl⟩, rfl⟩
  unfold processAtomically
  dsimp only
  generalize p.attempt bufferedSink d (⟨⟨s, []⟩, []⟩ : Buffered (Recorded σ)) = a at *
  generalize q.attempt bufferedSink d (⟨⟨t, []⟩, []⟩ : Buffered (Recorded τ)) = b at *
  rw [hfailure]
  cases b.failure with
  | some f =>
      have houtcome : Outcome.failed d a.sink.target.files f = .failed d b.sink.target.files f := by
        rw [htaken]
      exact Or.inr ⟨hengine, htarget, congrArg Except.ok houtcome⟩
  | none =>
      have hforward := hs.recording.forward b.sink.pending ⟨htarget, htaken⟩
      rw [← hpending] at hforward
      unfold flush
      dsimp only
      rw [← hpending]
      generalize forward (recordingSink sink) a.sink.target a.sink.pending = r at hforward ⊢
      generalize forward (recordingSink other) b.sink.target a.sink.pending = r' at hforward ⊢
      exact hforward.imp_right fun ⟨⟨hsink, hfiles⟩, hsent⟩ => ⟨hengine, hsink, by
        rw [show r.2.2 = r'.2.2 from congrArg Prod.snd hsent, hfiles]⟩

end Alike

end Pipeline

/-! ## 3. Items of a stream -/

namespace Stream

/-- Two streams have got equally far: their pipelines are alike, their sinks related. -/
structure Related (R : ρ → ρ' → Prop) (S : σ → τ → Prop) (w : Stream ρ σ) (v : Stream ρ' τ) :
    Prop where
  pipeline : w.pipeline.Alike R v.pipeline
  sink : S w.sink v.sink
  reported_eq : w.reported = v.reported

variable {w : Stream ρ σ} {v : Stream ρ' τ}

theorem after_related (h : w.Related R S v) {a : ρ} {b : ρ'} (he : R a b) {s : σ} {t : τ}
    (hst : S s t) (outcome : Except Fault Outcome) :
    (w.after a s outcome).1.Related R S (v.after b t outcome).1 := by
  refine ⟨⟨h.pipeline.generator_eq, h.pipeline.render, he⟩, hst, ?_⟩
  unfold after
  rw [h.reported_eq]

/-- **An item is processed alike in streams that are related**, into sinks that agree, unless these
    part. -/
theorem process_agreeUntil (hs : Sink.AgreeUntil S B sink other) (h : w.Related R S v)
    (item : Option InputDocument) :
    B (w.process sink item).1.sink (v.process other item).1.sink ∨
      (w.process sink item).1.Related R S (v.process other item).1 ∧
        (w.process sink item).2 = (v.process other item).2 := by
  cases item with
  | none => exact Or.inr ⟨h, rfl⟩
  | some d =>
      have hconfig : w.pipeline.config = v.pipeline.config :=
        congrArg Generator.config h.pipeline.generator_eq
      cases ha : w.pipeline.config.atomic.isTrue with
      | true =>
          rw [process_atomic ha, process_atomic (hconfig ▸ ha)]
          refine (Pipeline.processAtomically_agreeUntil hs h.pipeline d h.sink).imp_right
            fun ⟨hengine, hsink, houtcome⟩ => ?_
          rw [houtcome]
          exact ⟨after_related h hengine hsink _, rfl⟩
      | false =>
          rw [process_direct ha, process_direct (hconfig ▸ ha)]
          refine (Pipeline.processDirectly_agreeUntil hs h.pipeline d h.sink).imp_right
            fun ⟨hengine, hsink, houtcome⟩ => ?_
          rw [houtcome]
          exact ⟨after_related h hengine hsink _, rfl⟩

/-- An item is processed alike in streams over one sink. -/
theorem process_alike {u : Stream ρ' σ} (sink : Sink σ) (h : w.Related R (· = ·) u)
    (item : Option InputDocument) :
    (w.process sink item).1.Related R (· = ·) (u.process sink item).1 ∧
      (w.process sink item).2 = (u.process sink item).2 :=
  (process_agreeUntil sink.agree_self.until h item).resolve_left id

/-- **Streams that are related run alike into sinks that agree.** -/
theorem Run.agree (hs : Sink.Agree S sink other) : ∀ {items : List (Option InputDocument)}
    {os : List Outcome} {w v : Stream ρ σ} {u : Stream ρ' τ}, Run sink w items os v →
      w.Related R S u → ∃ z, Run other u items os z ∧ v.Related R S z
  | [], _, _, _, u, h, hu => by
      cases h
      exact ⟨u, .done, hu⟩
  | item :: items, _, w, _, u, h, hu => by
      obtain _ | ⟨first, others⟩ := h
      obtain ⟨hnext, houtcome⟩ := (process_agreeUntil hs.until hu item).resolve_left id
      rw [first] at hnext houtcome
      obtain ⟨z, hz, hrelated⟩ := others.agree hs hnext
      refine ⟨z, .next ?_ hz, hrelated⟩
      exact Prod.ext rfl houtcome.symm

end Stream

/-! ## 4. Setting up -/

/-- Engines that are alike render alike, over the same files. -/
theorem engineRenderer_agree (tree : FileTree) :
    Renderer.Agree (Engine.Alike tree) (engineRenderer tree) (engineRenderer tree) :=
  fun _ _ h name context => h.render name context

namespace Pipeline

variable {tree : FileTree} {e e' : Engine}

theorem missing_alike (h : e.Alike tree e') (names : List Data) :
    missing tree e names = missing tree e' names := by
  induction names with
  | nil => rfl
  | cons name rest ih =>
      unfold missing
      rw [h.provides_eq name, ih]

/-- Templates are read exactly if none of them is missing and all of them can be read and listed. -/
theorem readTemplates_eq_ok {required : List Data} : readTemplates tree e required = .ok e' ↔
    ∃ names read texts, (distinct required []).mapError Failure.fault = .ok names ∧
      missing tree e names = .ok [] ∧ (Engine.compileAll tree e required []).2 = .ok read ∧
      (read.mapM listed).mapError Failure.fault = .ok texts ∧
      e' = (Engine.compileAll tree e required []).1 := by
  constructor
  · intro h
    obtain ⟨names, hnames, h⟩ := except_bind_eq_ok.mp h
    obtain ⟨gone, hgone, h⟩ := except_bind_eq_ok.mp h
    cases gone with
    | cons name rest =>
        obtain ⟨_, _, hthrow⟩ := except_bind_eq_ok.mp h
        cases hthrow
    | nil =>
        obtain ⟨read, hread, h⟩ := except_bind_eq_ok.mp h
        obtain ⟨texts, htexts, h⟩ := except_bind_eq_ok.mp h
        cases h
        exact ⟨names, read, texts, hnames, hgone, hread, htexts, rfl⟩
  · rintro ⟨names, read, texts, hnames, hgone, hread, htexts, rfl⟩
    exact except_bind_eq_ok.mpr ⟨names, hnames, except_bind_eq_ok.mpr ⟨[], hgone,
      except_bind_eq_ok.mpr ⟨read, hread, except_bind_eq_ok.mpr ⟨texts, htexts, rfl⟩⟩⟩⟩

/-- Reading templates leaves the engine as good as it was. -/
theorem alike_readTemplates {required : List Data}
    (h : readTemplates tree e required = .ok e') : e.Alike tree e' := by
  obtain ⟨_, _, _, _, _, _, _, rfl⟩ := readTemplates_eq_ok.mp h
  exact Engine.alike_compileAll tree required e []

theorem readTemplates_alike (h : e.Alike tree e') {required : List Data} {a : Engine}
    (ha : readTemplates tree e required = .ok a) :
    ∃ b, readTemplates tree e' required = .ok b ∧ a.Alike tree b := by
  obtain ⟨names, read, texts, hnames, hgone, hread, htexts, rfl⟩ := readTemplates_eq_ok.mp ha
  obtain ⟨hstate, hresult⟩ := h.compileAll required []
  exact ⟨_, readTemplates_eq_ok.mpr ⟨names, read, texts, hnames, missing_alike h names ▸ hgone,
    hresult ▸ hread, htexts, rfl⟩, hstate⟩

variable {c : Config} {p : Pipeline Engine}

/-- A pipeline is set up exactly if its generator is and its templates can be read. -/
theorem ofEngine_eq_ok : ofEngine tree c e = .ok p ↔
    ∃ required, Generator.ofConfig tree.workingFolder c = .ok p.generator ∧
      p.generator.requiredTemplates = .ok required ∧
      (readTemplates tree e required).mapError Failure.ofSetup = .ok p.engine ∧
      p.render = engineRenderer tree := by
  constructor
  · intro h
    obtain ⟨g, hg, h⟩ := except_bind_eq_ok.mp h
    obtain ⟨required, hrequired, h⟩ := except_bind_eq_ok.mp h
    obtain ⟨engine, hengine, h⟩ := except_bind_eq_ok.mp h
    cases h
    exact ⟨required, hg, hrequired, hengine, rfl⟩
  · obtain ⟨g, render, engine⟩ := p
    rintro ⟨required, hg, hrequired, hengine, rfl⟩
    exact except_bind_eq_ok.mpr ⟨g, hg, except_bind_eq_ok.mpr ⟨required, hrequired,
      except_bind_eq_ok.mpr ⟨engine, hengine, rfl⟩⟩⟩

/-- A pipeline has an engine as good as the one it was set up with. -/
theorem engine_ofEngine (h : ofEngine tree c e = .ok p) : e.Alike tree p.engine := by
  obtain ⟨_, _, _, hread, _⟩ := ofEngine_eq_ok.mp h
  exact alike_readTemplates (except_mapError_eq_ok.mp hread)

/-- **Engines that are alike give pipelines that are alike.** -/
theorem ofEngine_alike (he : e.Alike tree e') (h : ofEngine tree c e = .ok p) :
    ∃ q, ofEngine tree c e' = .ok q ∧ p.Alike (Engine.Alike tree) q := by
  obtain ⟨required, hg, hrequired, hread, hrender⟩ := ofEngine_eq_ok.mp h
  obtain ⟨b, hb, halike⟩ := readTemplates_alike he (except_mapError_eq_ok.mp hread)
  refine ⟨⟨p.generator, engineRenderer tree, b⟩, ofEngine_eq_ok.mpr ⟨required, hg, hrequired,
    except_mapError_eq_ok.mpr hb, rfl⟩, rfl, ?_, halike⟩
  rw [hrender]
  exact engineRenderer_agree tree

end Pipeline

end DomainGen
