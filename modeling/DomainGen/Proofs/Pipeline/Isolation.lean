import DomainGen.Proofs.Pipeline.Atomicity

/-!
# Documents that do not see each other

Whatever a pipeline has processed before, a document fares as it does in a pipeline that was just
set up: the settings stay, and what renders the templates goes on giving the same, however many of them
it has read by then and wherever the earlier documents have failed. All that is asked of a renderer is
that it is steady: rendering leaves a state that answers as the one before. A template engine is.

* `Renderer.Steady` : a renderer whose states stay as good as they were; `engineRenderer_steady`;
* `Pipeline.Later` : a pipeline after any number of items, in either mode and into any sinks;
* `process_engine_induct` : what an item keeps of the state; `Later.engine_induct` : and what several do;
* `Later.alike` : **a pipeline that was used is as good as it was**;
* `Later.processed_alike` : **a document is processed as if it were the first**, whatever renders;
* `process_isolated` : with a template engine, as by a pipeline that is set up anew.
-/

namespace DomainGen

variable {ρ σ : Type}

/-! ## 1. Steady renderers -/

/-- A renderer is steady if its states can be told to be as good as one another: such states give the
    same texts, and rendering leaves a state as good as it was. -/
structure Renderer.Steady (R : ρ → ρ → Prop) (render : Renderer ρ) : Prop where
  equivalence : Equivalence R
  agree : Renderer.Agree R render render
  kept : ∀ e name context, R e (render e name context).1

/-- **A template engine is steady**: whatever it has read by then, it gives the same templates. -/
theorem engineRenderer_steady (tree : FileTree) :
    Renderer.Steady (Engine.Alike tree) (engineRenderer tree) where
  equivalence := ⟨.refl tree, .symm, .trans⟩
  agree := engineRenderer_agree tree
  kept e name context := e.alike_render tree name context

/-! ## 2. A pipeline that was used -/

namespace Pipeline

variable {p q : Pipeline ρ} {R : ρ → ρ → Prop}

/-- What no rendering destroys in the state, an attempt does not destroy. -/
theorem attempt_engine_induct {I : ρ → Prop} (p : Pipeline ρ)
    (hI : ∀ e name context, I e → I (p.render e name context).1) (sink : Sink σ)
    (d : InputDocument) (s : σ) (he : I p.engine) : I (p.attempt sink d s).engine := by
  have hwalk {m : Model} (hm : m.Fresh) :
      I (p.generator.generate p.render sink m p.engine s).engine :=
    generate_engine_induct p.generator hI sink hm s he
  have hend := p.attemptResult_attempt sink d s
  generalize p.attempt sink d s = a at hend ⊢
  cases hend with
  | unread => exact he
  | invalid => exact he
  | failed _ hm => exact hwalk (fresh_ofDocument hm)
  | generated _ hm => exact hwalk (fresh_ofDocument hm)

/-- What no rendering destroys in the state, an item does not destroy, in either mode. -/
theorem process_engine_induct {I : ρ → Prop} (sink : Sink σ) (w : Stream ρ σ)
    (hI : ∀ e name context, I e → I (w.pipeline.render e name context).1)
    (item : Option InputDocument) (he : I w.pipeline.engine) :
    I (w.process sink item).1.pipeline.engine := by
  cases item with
  | none => exact he
  | some d =>
      cases ha : w.pipeline.config.atomic.isTrue with
      | true =>
          rw [Stream.process_atomic ha]
          show I (w.pipeline.processAtomically sink d w.sink).1
          rw [processAtomically_engine]
          exact w.pipeline.attempt_engine_induct hI bufferedSink d _ he
      | false =>
          rw [Stream.process_direct ha]
          show I (w.pipeline.processDirectly sink d w.sink).1
          rw [processDirectly_engine]
          exact w.pipeline.attempt_engine_induct hI (recordingSink sink) d _ he

/-- An item changes nothing but the state of a pipeline. -/
theorem process_settings (sink : Sink σ) (w : Stream ρ σ) (item : Option InputDocument) :
    (w.process sink item).1.pipeline.generator = w.pipeline.generator ∧
      (w.process sink item).1.pipeline.render = w.pipeline.render := by
  cases item with
  | none => exact ⟨rfl, rfl⟩
  | some d =>
      unfold Stream.process
      dsimp only
      split
      · exact ⟨rfl, rfl⟩
      · exact ⟨rfl, rfl⟩

/-- What a pipeline is after any number of items, each in either mode and into a sink of its own. -/
inductive Later (p : Pipeline ρ) : Pipeline ρ → Prop where
  | now : Later p p
  | switched {q : Pipeline ρ} (h : Later p q) (flag : Data) : Later p (q.withAtomic flag)
  | processed {σ : Type} {w : Stream ρ σ} (h : Later p w.pipeline) (sink : Sink σ)
      (item : Option InputDocument) : Later p (w.process sink item).1.pipeline

/-- Several items in one stream, also if one of them ends it. -/
theorem Later.processList (sink : Sink σ) : ∀ (items : List (Option InputDocument))
    {w : Stream ρ σ}, p.Later w.pipeline → p.Later (Stream.processList sink w items).1.pipeline
  | [], _, h => h
  | item :: rest, w, h => by
      have hnext := h.processed sink item
      unfold Stream.processList
      rcases hp : w.process sink item with ⟨v, f | o⟩ <;> rw [hp] at hnext
      · exact hnext
      · exact hnext.processList sink rest

/-- A pipeline that was used has the settings it had, but for its mode, and renders in the same way. -/
theorem Later.settings (h : p.Later q) :
    q.generator = (p.withAtomic q.config.atomic).generator ∧ q.render = p.render := by
  induction h with
  | now => exact ⟨rfl, rfl⟩
  | @switched q _ flag ih =>
      refine ⟨?_, ih.2⟩
      unfold Pipeline.withAtomic Pipeline.config
      rw [ih.1]
      rfl
  | @processed σ w _ sink item ih =>
      obtain ⟨hgenerator, hrender⟩ := process_settings sink w item
      unfold Pipeline.config at ih ⊢
      rw [hgenerator, hrender]
      exact ih

/-- What no rendering destroys in the state, no items destroy. -/
theorem Later.engine_induct {I : ρ → Prop} (h : p.Later q)
    (hI : ∀ e name context, I e → I (p.render e name context).1) (hp : I p.engine) : I q.engine := by
  induction h with
  | now => exact hp
  | switched _ flag ih => exact ih
  | @processed σ w hw sink item ih =>
      exact process_engine_induct sink w (hw.settings.2 ▸ hI) item ih

/-- **A pipeline that was used is as good as it was**, but for its mode. -/
theorem Later.alike (h : p.Later q) (hp : Renderer.Steady R p.render) :
    (p.withAtomic q.config.atomic).Alike R q := by
  obtain ⟨hgenerator, hrender⟩ := h.settings
  exact ⟨hgenerator.symm, hrender ▸ hp.agree, h.engine_induct (I := R p.engine)
    (fun e name context hkept => hp.equivalence.trans hkept (hp.kept e name context))
    (hp.equivalence.refl p.engine)⟩

/-- **A document is processed as if it were the first.** A pipeline may have processed any items, in
    either mode and into any sinks. Beside a pipeline of the same settings that has a state as good as
    its first one, every document has the same outcome, and leaves the same in the sink and in what is
    reported. There is an outcome if the sink refuses nothing. -/
theorem Later.processed_alike {fresh : Pipeline ρ} (hq : p.Later q) (hp : Renderer.Steady R p.render)
    (hsettings : fresh.generator = (p.withAtomic q.config.atomic).generator)
    (hrender : fresh.render = p.render) (hengine : R p.engine fresh.engine) (sink : Sink σ) (s : σ)
    (d : InputDocument) : ∃ v v' outcome,
      (Stream.start q s).process sink (some d) = (v, outcome) ∧
      (Stream.start fresh s).process sink (some d) = (v', outcome) ∧
      v.sink = v'.sink ∧ v.reported = v'.reported ∧
      (sink.AcceptsAll → ∃ o, outcome = .ok o ∧ o.Answers (some d)) := by
  have hused := hq.alike hp
  have halike : q.Alike R fresh := by
    refine ⟨hused.generator_eq.symm.trans hsettings.symm, ?_,
      hp.equivalence.trans (hp.equivalence.symm hused.engine) hengine⟩
    rw [hrender, hq.settings.2]
    exact hp.agree
  have hstart : (Stream.start q s).Related R (· = ·) (Stream.start fresh s) := ⟨halike, rfl, rfl⟩
  obtain ⟨hleft, houtcome⟩ := Stream.process_alike sink hstart (some d)
  refine ⟨_, _, _, rfl, Prod.ext rfl houtcome.symm, hleft.sink, hleft.reported_eq, fun ha => ?_⟩
  rcases Stream.process_cases sink (.start q s) (some d) with
    ⟨o, v, hv, hanswered⟩ | ⟨_, f, _, _, _, _, file, _, u, _, _, _, hrefused⟩
  · exact ⟨o, congrArg Prod.snd hv, hanswered.answers⟩
  · exact absurd ((congrArg Prod.snd hrefused).symm.trans (ha u file)) (Option.some_ne_none f)

/-! ## 3. Main result -/

/-- **Documents are isolated.** A pipeline may have processed any items, valid or not, in either
    mode and into any sinks. A new pipeline of the same configuration can then be set up over any
    engine with the same templates, such as the one that was used, and every document fares the same
    in both: its outcome is the same, with the same status, files and failure, and so are the sink
    and what is reported. There is an outcome if the sink refuses nothing. -/
theorem process_isolated {tree : FileTree} {c : Config} {e e' : Engine} {p q : Pipeline Engine}
    (hp : ofEngine tree c e = .ok p) (hq : p.Later q) (he : e.Alike tree e') :
    e.Alike tree q.engine ∧
    ∃ fresh, ofEngine tree { c with atomic := q.config.atomic } e' = .ok fresh ∧
      ∀ {τ : Type} (other : Sink τ) (t : τ) (d : InputDocument), ∃ v v' outcome,
        (Stream.start q t).process other (some d) = (v, outcome) ∧
        (Stream.start fresh t).process other (some d) = (v', outcome) ∧
        v.sink = v'.sink ∧ v.reported = v'.reported ∧
        (other.AcceptsAll → ∃ o, outcome = .ok o ∧ o.Answers (some d)) := by
  obtain ⟨fresh, hfresh, hnew⟩ := ofEngine_alike he (ofEngine_withAtomic hp q.config.atomic)
  obtain ⟨_, _, _, _, hrender⟩ := ofEngine_eq_ok.mp hp
  obtain ⟨_, _, _, _, hrender'⟩ := ofEngine_eq_ok.mp hfresh
  have hsteady : Renderer.Steady (Engine.Alike tree) p.render := hrender ▸ engineRenderer_steady tree
  exact ⟨(engine_ofEngine hp).trans (hq.alike hsteady).engine, fresh, hfresh, fun other t d =>
    hq.processed_alike hsteady hnew.generator_eq.symm (hrender'.trans hrender.symm) hnew.engine other t d⟩

end Pipeline

/-! ## 4. After documents that fail -/

/-- Documents that fail, one on its text and one on its way, and an item without a document. -/
def failingItems : List (Option InputDocument) :=
  [some ⟨"broken", "aggregates: ["⟩, some twinsInput, none]

/-- A document with one event. -/
def placedInput : InputDocument := ⟨"placed", "aggregates: {order: {events: {placed: {}}}}"⟩

/-- A pipeline that has processed items and is made atomic then. -/
def Pipeline.usedAtomic (p : Pipeline ρ) (items : List (Option InputDocument)) : Pipeline ρ :=
  ((Stream.start p []).processList memorySink items).1.pipeline.withAtomic (.bool true)

/-- Behind two documents that have failed, a document gives the files that it gives alone. -/
theorem process_isolated_placed : ∃ (p fresh : Pipeline Engine)
    (v w : Stream Engine (List GeneratedFile)) (o : Outcome),
    Pipeline.ofEngine ⟨[], []⟩ Config.standard plainEngine = .ok p ∧
    ((Stream.start p []).processAll memorySink failingItems).1.reported.map (·.1) =
      [some "broken", some "twins"] ∧
    Pipeline.ofEngine ⟨[], []⟩ { Config.standard with atomic := .bool true } plainEngine =
      .ok fresh ∧
    (Stream.start (p.usedAtomic failingItems) []).process memorySink (some placedInput) =
      (v, .ok o) ∧
    (Stream.start fresh []).process memorySink (some placedInput) = (w, .ok o) ∧
    v.sink = w.sink ∧ v.sink.map (·.path) =
      ["aggregates/order-aggregate.js", "events/placed-event.js", "events/index.js", "index.js"] := by
  have hrun : (match Pipeline.ofEngine ⟨[], []⟩ Config.standard plainEngine with
    | .ok p => some
        (((Stream.start p []).processAll memorySink failingItems).1.reported.map (·.1),
          ((Stream.start (p.usedAtomic failingItems) []).process memorySink
            (some placedInput)).1.sink.map (·.path))
    | .error _ => none) = some ([some "broken", some "twins"],
      ["aggregates/order-aggregate.js", "events/placed-event.js", "events/index.js",
        "index.js"]) := by
    decide +kernel
  cases hp : Pipeline.ofEngine ⟨[], []⟩ Config.standard plainEngine with
  | error problem =>
      rw [hp] at hrun
      cases hrun
  | ok p =>
      rw [hp, Option.some.injEq, Prod.mk.injEq] at hrun
      have hq : p.Later (p.usedAtomic failingItems) :=
        (Pipeline.Later.processList memorySink failingItems (w := .start p []) .now).switched _
      obtain ⟨_, fresh, hfresh, hprocess⟩ :=
        Pipeline.process_isolated hp hq (.refl ⟨[], []⟩ plainEngine)
      obtain ⟨v, w, outcome, hv, hw, hsink, _, hok⟩ := hprocess memorySink [] placedInput
      obtain ⟨o, rfl, _⟩ := hok Sink.memorySink_acceptsAll
      refine ⟨p, fresh, v, w, o, rfl, hrun.1, hfresh, hv, hw, hsink, ?_⟩
      rw [hv] at hrun
      exact hrun.2

end DomainGen
