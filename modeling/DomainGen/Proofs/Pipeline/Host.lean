import DomainGen.Pipeline
import DomainGen.Proofs.Generation.Simulation
import DomainGen.Proofs.Sink.Acceptance

/-!
# Streams of documents

A pipeline answers every item of a stream, and a document that fails does not keep it from the
items behind it. One thing is not guarded: an atomic pipeline passes the files of a document on when
all of them are generated, and a sink that refuses one of them then ends the stream.

* `Outcome.Answers` : an outcome belongs to an item;
* `Pipeline.AttemptResult` : what an attempt to generate the files of a document can end in;
* `Stream.Run` : **every item is processed, one after the other**, with its outcome;
* `Stream.RefusesLate` : the sink refuses a file that an atomic pipeline held back;
* `processAll_answered` : a stream is answered exactly if this never happens.
-/

namespace DomainGen

variable {ρ σ : Type} {sink : Sink σ}

/-! ## 1. Outcomes -/

/-- The outcome belongs to the item: nothing is skipped but what is not there, and every document is
    either generated, without a failure, or failed, with one. -/
def Outcome.Answers (o : Outcome) : Option InputDocument → Prop
  | none => o = .skipped
  | some d => o.source = some d.source ∧
    ((o.status = .generated ∧ o.failure = none) ∨ (o.status = .failed ∧ o.failure.isSome))

/-- What is reported of an outcome: the failure and its source, if it is a failed one. -/
def Outcome.complaint (o : Outcome) : Option (Option String × Failure) :=
  o.failure.map fun f => (o.source, f)

namespace Pipeline

theorem processDirectly_answers (p : Pipeline ρ) (sink : Sink σ) (d : InputDocument) (s : σ) :
    (p.processDirectly sink d s).2.2.Answers (some d) := by
  unfold processDirectly
  dsimp only
  split
  · exact ⟨rfl, Or.inr ⟨rfl, rfl⟩⟩
  · exact ⟨rfl, Or.inl ⟨rfl, rfl⟩⟩

theorem processAtomically_answers (p : Pipeline ρ) (sink : Sink σ) (d : InputDocument) (s : σ)
    {o : Outcome} (h : (p.processAtomically sink d s).2.2 = .ok o) : o.Answers (some d) := by
  unfold processAtomically at h
  dsimp only at h
  split at h
  · cases h
    exact ⟨rfl, Or.inr ⟨rfl, rfl⟩⟩
  · obtain ⟨_, _, rfl⟩ := except_map_eq_ok.mp h
    exact ⟨rfl, Or.inl ⟨rfl, rfl⟩⟩

/-- What an attempt can end in. -/
inductive AttemptResult (p : Pipeline ρ) (sink : Sink σ) (d : InputDocument) (s : σ) :
    Attempt ρ σ → Prop where
  /-- The text is not read. -/
  | unread {f} (hread : readDocument d.text d.source = .error f) :
      AttemptResult p sink d s ⟨p.engine, s, some f⟩
  /-- What was read is no model. -/
  | invalid {value f} (hread : readDocument d.text d.source = .ok value)
      (hm : Model.ofDocument value (some d.source) = .error f) :
      AttemptResult p sink d s ⟨p.engine, s, some f⟩
  /-- The files of a model are not all generated. -/
  | failed {value m f} (hread : readDocument d.text d.source = .ok value)
      (hm : Model.ofDocument value (some d.source) = .ok m)
      (ho : (p.generator.generate p.render sink m p.engine s).outcome = .error f) :
      AttemptResult p sink d s
        ⟨(p.generator.generate p.render sink m p.engine s).engine,
          (p.generator.generate p.render sink m p.engine s).sink, some f⟩
  /-- All of them are. -/
  | generated {value m gen} (hread : readDocument d.text d.source = .ok value)
      (hm : Model.ofDocument value (some d.source) = .ok m)
      (ho : (p.generator.generate p.render sink m p.engine s).outcome = .ok gen) :
      AttemptResult p sink d s
        ⟨(p.generator.generate p.render sink m p.engine s).engine,
          (p.generator.generate p.render sink m p.engine s).sink, none⟩

/-- **Every attempt ends so.** -/
theorem attemptResult_attempt (p : Pipeline ρ) (sink : Sink σ) (d : InputDocument) (s : σ) :
    p.AttemptResult sink d s (p.attempt sink d s) := by
  unfold attempt
  cases hread : readDocument d.text d.source with
  | error f => exact .unread hread
  | ok value =>
      dsimp only
      cases hm : Model.ofDocument value (some d.source) with
      | error f => exact .invalid hread hm
      | ok m =>
          dsimp only
          cases ho : (p.generator.generate p.render sink m p.engine s).outcome with
          | error f => exact .failed hread hm ho
          | ok gen => exact .generated hread hm ho

/-- What no file destroys in the sink, an attempt does not destroy. -/
theorem attempt_sink_induct {I : σ → Prop} (hI : ∀ s f, I s → I (sink s f).1) (p : Pipeline ρ)
    (d : InputDocument) {s : σ} (hs : I s) : I (p.attempt sink d s).sink := by
  have hwalk {m : Model} (hm : m.Fresh) := generate_sink_induct p.generator (fun s f _ => hI s f)
    p.render hm p.engine hs
  have hend := p.attemptResult_attempt sink d s
  generalize p.attempt sink d s = a at hend ⊢
  cases hend with
  | unread => exact hs
  | invalid => exact hs
  | failed _ hm => exact hwalk (fresh_ofDocument hm)
  | generated _ hm => exact hwalk (fresh_ofDocument hm)

section Directly

variable (p : Pipeline ρ) (sink : Sink σ) (d : InputDocument) (s : σ)

theorem processDirectly_engine : (p.processDirectly sink d s).1 =
    (p.attempt (recordingSink sink) d ⟨s, []⟩).engine := by
  unfold processDirectly
  dsimp only
  split <;> rfl

theorem processDirectly_target : (p.processDirectly sink d s).2.1 =
    (p.attempt (recordingSink sink) d ⟨s, []⟩).sink.target := by
  unfold processDirectly
  dsimp only
  split <;> rfl

theorem processDirectly_files : (p.processDirectly sink d s).2.2.files =
    (p.attempt (recordingSink sink) d ⟨s, []⟩).sink.files := by
  unfold processDirectly
  dsimp only
  split <;> rfl

theorem processDirectly_failure : (p.processDirectly sink d s).2.2.failure =
    (p.attempt (recordingSink sink) d ⟨s, []⟩).failure := by
  unfold processDirectly
  dsimp only
  split
  · exact Eq.symm ‹_›
  · exact Eq.symm ‹_›

end Directly

/-- The attempt of an atomic pipeline: all files are held back. -/
def heldBack (p : Pipeline ρ) (d : InputDocument) (s : σ) : Attempt ρ (Buffered (Recorded σ)) :=
  p.attempt bufferedSink d ⟨⟨s, []⟩, []⟩

theorem processAtomically_engine (p : Pipeline ρ) (sink : Sink σ) (d : InputDocument) (s : σ) :
    (p.processAtomically sink d s).1 = (p.heldBack d s).engine := by
  unfold processAtomically
  dsimp only
  split <;> rfl

theorem processAtomically_failure {p : Pipeline ρ} {d : InputDocument} {s : σ} {o : Outcome}
    (h : (p.processAtomically sink d s).2.2 = .ok o) : o.failure = (p.heldBack d s).failure := by
  unfold processAtomically at h
  dsimp only at h
  split at h
  · cases h
    exact Eq.symm ‹_›
  · obtain ⟨_, _, rfl⟩ := except_map_eq_ok.mp h
    exact Eq.symm ‹_›

/-- Nothing reaches the sink while files are held back. -/
theorem target_heldBack (p : Pipeline ρ) (d : InputDocument) (s : σ) :
    (p.heldBack d s).sink.target = ⟨s, []⟩ :=
  attempt_sink_induct (I := fun b : Buffered (Recorded σ) => b.target = ⟨s, []⟩)
    (fun _ _ h => h) p d rfl

section Atomically

variable {p : Pipeline ρ} {d : InputDocument} {s : σ}

/-- A document that fails leaves the sink of an atomic pipeline as it was. -/
theorem processAtomically_failed {f : Failure} (h : (p.heldBack d s).failure = some f) :
    p.processAtomically sink d s = ((p.heldBack d s).engine, s, .ok (.failed d [] f)) := by
  have htarget := p.target_heldBack d s
  unfold heldBack at h htarget ⊢
  unfold processAtomically discard
  simp only [h, htarget]

/-- A document whose files are all taken is generated, with these files. -/
theorem processAtomically_taken {t : σ} (h : (p.heldBack d s).failure = none)
    (ht : sink.Takes s (p.heldBack d s).sink.pending t) :
    p.processAtomically sink d s = ((p.heldBack d s).engine, t,
      .ok (.generated d (p.heldBack d s).sink.pending)) := by
  have htarget := p.target_heldBack d s
  have hforward := Sink.forward_taken (Sink.takes_recordingSink [] ht)
  unfold heldBack at h htarget hforward ⊢
  unfold processAtomically flush
  simp only [h, htarget, hforward]
  rfl

/-- A file that is refused after it was held back leaves the document without an outcome. -/
theorem processAtomically_refused {taken rest : List GeneratedFile} {f : GeneratedFile} {t u : σ}
    {e : Fault} (h : (p.heldBack d s).failure = none)
    (hpending : (p.heldBack d s).sink.pending = taken ++ f :: rest) (ht : sink.Takes s taken t)
    (hf : sink t f = (u, some e)) :
    p.processAtomically sink d s = ((p.heldBack d s).engine, u, .error e) := by
  have htarget := p.target_heldBack d s
  have hforward : forward (recordingSink sink) ⟨s, []⟩ (taken ++ f :: rest) =
      (⟨u, taken⟩, rest, .error e) :=
    Sink.forward_refused (Sink.takes_recordingSink [] ht) (Sink.recordingSink_refused hf taken)
  unfold heldBack at h htarget hpending ⊢
  unfold processAtomically flush
  simp only [h, htarget, hpending, hforward]
  rfl

end Atomically

end Pipeline

/-! ## 2. One item -/

namespace Stream

variable {w v : Stream ρ σ}

/-- The sink refuses a file of a document after an atomic pipeline has generated all of them. -/
def RefusesLate (sink : Sink σ) (w : Stream ρ σ) (d : InputDocument) (e : Fault) : Prop :=
  w.pipeline.config.atomic.isTrue = true ∧ (w.pipeline.heldBack d w.sink).failure = none ∧
    ∃ taken f rest t u, (w.pipeline.heldBack d w.sink).sink.pending = taken ++ f :: rest ∧
      sink.Takes w.sink taken t ∧ sink t f = (u, some e)

/-- What processing an item with an outcome changes: the failure is reported if there is one, and
    the settings stay. -/
structure Answered (w : Stream ρ σ) (item : Option InputDocument) (o : Outcome) (v : Stream ρ σ) :
    Prop where
  answers : o.Answers item
  reported : v.reported = w.reported ++ o.complaint.toList
  config : v.pipeline.config = w.pipeline.config

theorem answered_after {d : InputDocument} {o : Outcome} (ho : o.Answers (some d))
    (engine : ρ) (s : σ) : w.Answered (some d) o (w.after engine s (.ok o)).1 :=
  ⟨ho, rfl, rfl⟩

theorem process_direct (h : w.pipeline.config.atomic.isTrue = false) (d : InputDocument) :
    w.process sink (some d) =
      w.after (w.pipeline.processDirectly sink d w.sink).1
        (w.pipeline.processDirectly sink d w.sink).2.1
        (.ok (w.pipeline.processDirectly sink d w.sink).2.2) := by
  simp only [process, h, Bool.false_eq_true, if_false]

theorem process_atomic (h : w.pipeline.config.atomic.isTrue = true) (d : InputDocument) :
    w.process sink (some d) =
      w.after (w.pipeline.processAtomically sink d w.sink).1
        (w.pipeline.processAtomically sink d w.sink).2.1
        (w.pipeline.processAtomically sink d w.sink).2.2 := by
  simp only [process, h, if_true]

/-- What no file destroys in the sink, an item does not destroy, in either mode. -/
theorem process_sink_induct {I : σ → Prop} (hI : ∀ s f, I s → I (sink s f).1) (w : Stream ρ σ)
    (item : Option InputDocument) (h : I w.sink) : I (w.process sink item).1.sink := by
  have hrecord : ∀ r f, I r.target → I (recordingSink sink r f).1.target := by
    intro r f hr
    rw [Sink.target_recordingSink]
    exact hI r.target f hr
  cases item with
  | none => exact h
  | some d =>
      cases ha : w.pipeline.config.atomic.isTrue with
      | true =>
          rw [process_atomic ha]
          show I (w.pipeline.processAtomically sink d w.sink).2.1
          have htarget := w.pipeline.target_heldBack d w.sink
          unfold Pipeline.heldBack at htarget
          unfold Pipeline.processAtomically
          dsimp only
          generalize w.pipeline.attempt bufferedSink d
            (⟨⟨w.sink, []⟩, []⟩ : Buffered (Recorded σ)) = a at htarget ⊢
          cases a.failure with
          | some f =>
              show I a.sink.target.target
              rw [htarget]
              exact h
          | none =>
              refine Sink.forward_sink_induct (I := fun r : Recorded σ => I r.target) hrecord
                a.sink.pending ?_
              rw [htarget]
              exact h
      | false =>
          rw [process_direct ha]
          show I (w.pipeline.processDirectly sink d w.sink).2.1
          rw [Pipeline.processDirectly_target]
          exact Pipeline.attempt_sink_induct (I := fun r : Recorded σ => I r.target) hrecord w.pipeline d h

theorem process_refusedLate {d : InputDocument} {e : Fault} (h : w.RefusesLate sink d e) :
    (w.process sink (some d)).2 = .error e := by
  obtain ⟨ha, hf, taken, f, rest, t, u, hpending, ht, hu⟩ := h
  rw [process_atomic ha, Pipeline.processAtomically_refused hf hpending ht hu]
  rfl

/-- **An item is answered, or it is a document with a file that is refused late.** -/
theorem process_cases (sink : Sink σ) (w : Stream ρ σ) (item : Option InputDocument) :
    (∃ o v, w.process sink item = (v, .ok o) ∧ w.Answered item o v) ∨
      ∃ d e, item = some d ∧ w.RefusesLate sink d e := by
  cases item with
  | none => exact Or.inl ⟨.skipped, w, rfl, rfl, (List.append_nil _).symm, rfl⟩
  | some d =>
      cases ha : w.pipeline.config.atomic.isTrue with
      | false =>
          have ho := w.pipeline.processDirectly_answers sink d w.sink
          exact Or.inl ⟨_, _, process_direct ha d, answered_after ho _ _⟩
      | true =>
          -- an outcome of the atomic pipeline answers the document, whatever it is
          have answered : ∀ {engine s o},
              w.pipeline.processAtomically sink d w.sink = (engine, s, .ok o) →
              ∃ o v, w.process sink (some d) = (v, .ok o) ∧ w.Answered (some d) o v := by
            intro engine s o hp
            have ho := w.pipeline.processAtomically_answers sink d w.sink (congrArg (·.2.2) hp)
            refine ⟨o, (w.after engine s (.ok o)).1, ?_, answered_after ho engine s⟩
            rw [process_atomic ha, hp]
            rfl
          cases hf : (w.pipeline.heldBack d w.sink).failure with
          | some f => exact Or.inl (answered (Pipeline.processAtomically_failed hf))
          | none =>
              rcases Sink.forward_cases sink (w.pipeline.heldBack d w.sink).sink.pending w.sink with
                ⟨t, ht⟩ | ⟨taken, f, rest, t, u, e, hpending, ht, hu⟩
              · exact Or.inl (answered (Pipeline.processAtomically_taken hf ht))
              · exact Or.inr ⟨d, e, rfl, ha, hf, taken, f, rest, t, u, hpending, ht, hu⟩

theorem answered_of_process {item : Option InputDocument} {o : Outcome}
    (h : w.process sink item = (v, .ok o)) : w.Answered item o v := by
  rcases process_cases sink w item with ⟨o', v', hv, ha⟩ | ⟨d, e, rfl, hd⟩
  · rw [h] at hv
    cases hv
    exact ha
  · have hp := process_refusedLate hd
    rw [h] at hp
    cases hp

/-! ## 3. All items -/

/-- Every item is processed in the stream that the items before it have left, and has an outcome. -/
inductive Run (sink : Sink σ) :
    Stream ρ σ → List (Option InputDocument) → List Outcome → Stream ρ σ → Prop where
  /-- There are no items. -/
  | done {w : Stream ρ σ} : Run sink w [] [] w
  /-- An item comes before others. -/
  | next {w v u : Stream ρ σ} {item : Option InputDocument} {items : List (Option InputDocument)}
      {o : Outcome} {os : List Outcome} (first : w.process sink item = (v, .ok o))
      (others : Run sink v items os u) : Run sink w (item :: items) (o :: os) u

theorem processList_run : ∀ {items : List (Option InputDocument)} {os : List Outcome}
    {w v : Stream ρ σ}, Run sink w items os v → processList sink w items = (v, .ok os)
  | [], _, _, _, h => by
      cases h
      rfl
  | item :: items, _, _, _, h => by
      obtain _ | ⟨first, others⟩ := h
      simp only [processList, first, processList_run others, Except.map]

/-- **Every stream is run to its end, or a document in it has a file that is refused late.** -/
theorem processList_cases (sink : Sink σ) : ∀ (items : List (Option InputDocument)) (w : Stream ρ σ),
    (∃ os v, Run sink w items os v) ∨
      ∃ pre d post os v e, items = pre ++ some d :: post ∧ Run sink w pre os v ∧
        v.RefusesLate sink d e
  | [], w => Or.inl ⟨[], w, .done⟩
  | item :: items, w => by
      rcases process_cases sink w item with ⟨o, v, hv, _⟩ | ⟨d, e, rfl, hd⟩
      · rcases processList_cases sink items v with ⟨os, u, hu⟩ |
          ⟨pre, d, post, os, u, e, rfl, hu, hd⟩
        · exact Or.inl ⟨o :: os, u, .next hv hu⟩
        · exact Or.inr ⟨item :: pre, d, post, o :: os, u, e, rfl, .next hv hu, hd⟩
      · exact Or.inr ⟨[], d, items, [], w, e, rfl, .done, hd⟩

theorem processList_refusedLate : ∀ {pre post : List (Option InputDocument)} {d : InputDocument}
    {os : List Outcome} {w v : Stream ρ σ} {e : Fault}, Run sink w pre os v →
    v.RefusesLate sink d e → (processList sink w (pre ++ some d :: post)).2 = .error e
  | [], post, d, _, w, v, e, h, hd => by
      cases h
      have hp := process_refusedLate hd
      rcases hr : w.process sink (some d) with ⟨u, r⟩
      rw [hr] at hp
      obtain rfl : r = .error e := hp
      simp only [List.nil_append, processList, hr]
  | item :: pre, post, d, _, w, v, e, h, hd => by
      obtain _ | ⟨first, others⟩ := h
      have ih : (processList sink _ (pre ++ some d :: post)).2 = .error e :=
        processList_refusedLate others hd
      simp only [List.cons_append, processList, first, ih, Except.map]

/-- What a run leaves: one outcome for each item, the failures reported in order, the settings as
    they were. -/
theorem Run.answered : ∀ {items : List (Option InputDocument)} {os : List Outcome}
    {w v : Stream ρ σ}, Run sink w items os v →
    List.Forall₂ (fun item o => Outcome.Answers o item) items os ∧
      v.reported = w.reported ++ os.filterMap Outcome.complaint ∧
      v.pipeline.config = w.pipeline.config
  | [], _, _, _, h => by
      cases h
      exact ⟨.nil, (List.append_nil _).symm, rfl⟩
  | item :: items, _, _, _, h => by
      obtain _ | ⟨first, others⟩ := h
      have hfirst := answered_of_process first
      obtain ⟨hanswers, hreported, hconfig⟩ := others.answered
      refine ⟨.cons hfirst.answers hanswers, ?_, hconfig.trans hfirst.config⟩
      rw [hreported, hfirst.reported, List.append_assoc, List.filterMap_cons]
      cases Outcome.complaint _ <;> rfl

/-- What no file destroys in the sink, a run does not destroy. -/
theorem Run.sink_induct {I : σ → Prop} (hI : ∀ s f, I s → I (sink s f).1) :
    ∀ {items : List (Option InputDocument)} {os : List Outcome} {w v : Stream ρ σ},
      Run sink w items os v → I w.sink → I v.sink
  | [], _, _, _, h, hw => by
      cases h
      exact hw
  | item :: items, _, w, _, h, hw => by
      obtain _ | ⟨first, others⟩ := h
      have hnext := process_sink_induct hI w item hw
      rw [first] at hnext
      exact others.sink_induct hI hnext

/-! ## 4. Main result -/

/-- A report answers a stream: every item was processed in the stream that the items before it have
    left, each has the outcome that belongs to it, in order, and exactly the failures were reported,
    in order. -/
structure AnsweredBy (sink : Sink σ) (w : Stream ρ σ) (items : List (Option InputDocument))
    (r : Report) (v : Stream ρ σ) : Prop where
  run : Run sink w items r.outcomes v
  length_eq : r.outcomes.length = items.length
  answers : List.Forall₂ (fun item o => Outcome.Answers o item) items r.outcomes
  reported : v.reported = w.reported ++ r.outcomes.filterMap Outcome.complaint

/-- Some document of a stream has a file that is refused late. -/
def EndsLate (sink : Sink σ) (w : Stream ρ σ) (items : List (Option InputDocument)) (e : Fault) :
    Prop :=
  ∃ pre d post os v, items = pre ++ some d :: post ∧ Run sink w pre os v ∧ v.RefusesLate sink d e

theorem processAll_of_run {items : List (Option InputDocument)} {os : List Outcome}
    (h : Run sink w items os v) : w.processAll sink items = (v, .ok ⟨os⟩) := by
  unfold processAll
  rw [processList_run h]
  rfl

theorem answeredBy_of_run {items : List (Option InputDocument)} {os : List Outcome}
    (h : Run sink w items os v) : AnsweredBy sink w items ⟨os⟩ v :=
  ⟨h, h.answered.1.length_eq.symm, h.answered.1, h.answered.2.1⟩

theorem processAll_endsLate {items : List (Option InputDocument)} {e : Fault}
    (h : EndsLate sink w items e) : (w.processAll sink items).2 = .error e := by
  obtain ⟨pre, d, post, os, v, rfl, hrun, hd⟩ := h
  have hp : (processList sink w (pre ++ some d :: post)).2 = .error e :=
    processList_refusedLate hrun hd
  unfold processAll
  rcases hr : processList sink w (pre ++ some d :: post) with ⟨u, r⟩
  rw [hr] at hp
  obtain rfl : r = .error e := hp
  rfl

/-- **A stream is answered by a report unless an atomic pipeline has a file refused late**, and
    then the fault of the sink is all that is left of the run. A pipeline that is not atomic answers
    every stream, whatever the sink refuses. -/
theorem processAll_answered (sink : Sink σ) (p : Pipeline ρ) (s : σ)
    (items : List (Option InputDocument)) :
    ((∃ r v, (Stream.start p s).processAll sink items = (v, .ok r) ∧
        AnsweredBy sink (.start p s) items r v) ↔ ∀ e, ¬ EndsLate sink (.start p s) items e) ∧
    (∀ e, EndsLate sink (.start p s) items e →
      ((Stream.start p s).processAll sink items).2 = .error e) ∧
    ∀ e, EndsLate sink (.start p s) items e → p.config.atomic.isTrue = true := by
  refine ⟨⟨?_, ?_⟩, fun e => processAll_endsLate, ?_⟩
  · rintro ⟨r, v, hr, _⟩ e he
    have hp := processAll_endsLate he
    rw [hr] at hp
    cases hp
  · intro hlate
    rcases processList_cases sink items (.start p s) with
      ⟨os, v, hrun⟩ | ⟨pre, d, post, os, v, e, h⟩
    · exact ⟨⟨os⟩, v, processAll_of_run hrun, answeredBy_of_run hrun⟩
    · exact absurd ⟨pre, d, post, os, v, h⟩ (hlate e)
  · rintro e ⟨pre, d, post, os, v, _, hrun, ha, _⟩
    rw [hrun.answered.2.2] at ha
    exact ha

end Stream

/-! ## 5. A stream that is not answered -/

/-- The standard settings with documents written only when all of their files are generated. -/
def atomicConfig : Config := { Config.standard with atomic := .bool true }

/-- An engine that holds a template without tags for each role. -/
def plainEngine : Engine :=
  .make ⟨[], []⟩ [] [("aggregate.j2", "aggregate"), ("command.j2", "command"),
    ("event.j2", "event"), ("fault.j2", "fault"), ("module.j2", "index")] (.text "utf-8")

/-- Two documents without aggregates; each gives the index of the kinds and nothing else. -/
def emptyDocuments : List (Option InputDocument) :=
  [some ⟨"first", "aggregates: {}"⟩, some ⟨"second", "aggregates: {}"⟩]

/-- **A sink that refuses the first file ends a stream of an atomic pipeline**: there is no report,
    and the second document is never processed. -/
theorem atomic_stream_not_answered : ∃ p,
    Pipeline.ofEngine ⟨[], []⟩ atomicConfig plainEngine = .ok p ∧
    ((Stream.start p []).processAll (failingSink 0) emptyDocuments).2.toOption.isNone ∧
    ((Stream.start p []).processAll (failingSink 0) emptyDocuments).1.reported = [] := by
  have hrun : (match Pipeline.ofEngine ⟨[], []⟩ atomicConfig plainEngine with
    | .ok p =>
      ((Stream.start p []).processAll (failingSink 0) emptyDocuments).2.toOption.isNone &&
        ((Stream.start p []).processAll (failingSink 0) emptyDocuments).1.reported.isEmpty
    | .error _ => false) = true := by decide +kernel
  cases hp : Pipeline.ofEngine ⟨[], []⟩ atomicConfig plainEngine with
  | error problem =>
      rw [hp] at hrun
      cases hrun
  | ok p =>
      rw [hp] at hrun
      obtain ⟨hanswer, hreported⟩ := Bool.and_eq_true_iff.mp hrun
      exact ⟨p, rfl, hanswer, List.isEmpty_iff.mp hreported⟩

end DomainGen
