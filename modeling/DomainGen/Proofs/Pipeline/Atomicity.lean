import DomainGen.Proofs.Pipeline.Agreement
import DomainGen.Proofs.Pipeline.Host
import DomainGen.Proofs.Sink.Acceptance

/-!
# Atomic and direct pipelines

A pipeline that is not atomic hands files over as they are generated, so a document that fails can
leave files behind. Its outcome lists them: the recording in front of the sink remembers exactly the
files that were accepted, wherever the sink refuses one.

An atomic pipeline puts a buffer in front of the sink and passes its files on when all of them are
generated; a direct one hands each file over at once. As long as the sink refuses nothing this is
the only difference: both generate a document or fail on it in the same way, and the atomic one
writes all of a document or nothing of it.

* `processDirectly_kept`, `process_kept` : one document, one item;
* `Run.kept_sink` : several items, by induction over the run;
* `processAll_accounted` : **the outcomes of a stream list the files the sink has accepted**, in
  order and each under its own item;
* `Pipeline.withAtomic` : the same pipeline with another value of the setting; `ofEngine_withAtomic` :
  that is what configurations give that differ in it;
* `heldBack_alike` : what is held back is what would have been handed over;
* `process_atomic_direct` : **an atomic pipeline does what the direct one does, or nothing.**
-/

namespace DomainGen

variable {ρ σ : Type} {sink : Sink σ} {kept : σ → List GeneratedFile}

/-! ## 1. What one document writes -/

/-- A document adds to the sink what its outcome lists. -/
theorem Pipeline.processDirectly_kept (hk : sink.Keeps kept) (p : Pipeline ρ) (d : InputDocument)
    (s : σ) :
    kept (p.processDirectly sink d s).2.1 = kept s ++ (p.processDirectly sink d s).2.2.files := by
  have hrecorded : kept (p.attempt (recordingSink sink) d ⟨s, []⟩).sink.target =
      kept s ++ (p.attempt (recordingSink sink) d ⟨s, []⟩).sink.files := attempt_sink_induct
    (I := fun r : Recorded σ => kept r.target = kept s ++ r.files)
    (fun _ f hr => Sink.recordingSink_accounts hk hr f) p d (s := ⟨s, []⟩)
    (List.append_nil (kept s)).symm
  rw [processDirectly_target, processDirectly_files]
  exact hrecorded

namespace Stream

variable {w v : Stream ρ σ}

/-! ## 2. What several items write -/

/-- An item adds to the sink what its outcome lists. -/
theorem process_kept (hk : sink.Keeps kept) (ha : w.pipeline.config.atomic.isTrue = false)
    {item : Option InputDocument} {o : Outcome} (h : w.process sink item = (v, .ok o)) :
    kept v.sink = kept w.sink ++ o.files := by
  cases item with
  | none =>
      rw [process_none] at h
      cases h
      exact (List.append_nil _).symm
  | some d =>
      rw [process_direct ha] at h
      cases h
      exact w.pipeline.processDirectly_kept hk d w.sink

/-- Several items add to the sink what their outcomes list, in order. -/
theorem Run.kept_sink (hk : sink.Keeps kept) : ∀ {items : List (Option InputDocument)}
    {os : List Outcome} {w v : Stream ρ σ}, Run sink w items os v →
    w.pipeline.config.atomic.isTrue = false → kept v.sink = kept w.sink ++ os.flatMap (·.files)
  | [], _, _, _, h, _ => by
      cases h
      exact (List.append_nil _).symm
  | item :: items, _, _, _, h, ha => by
      obtain _ | ⟨first, others⟩ := h
      have hnext := ha
      rw [← (answered_of_process first).config] at hnext
      rw [others.kept_sink hk hnext, process_kept hk ha first, List.flatMap_cons, List.append_assoc]

/-- The beginning of a run is the run over the first items. -/
theorem Run.take : ∀ {items : List (Option InputDocument)} {os : List Outcome} {w v : Stream ρ σ},
    Run sink w items os v → ∀ n, ∃ u, Run sink w (items.take n) (os.take n) u
  | _, _, w, _, _, 0 => ⟨w, by simpa using Run.done⟩
  | [], _, w, _, h, _ + 1 => by
      cases h
      exact ⟨w, .done⟩
  | item :: items, _, _, _, h, n + 1 => by
      obtain _ | ⟨first, others⟩ := h
      obtain ⟨u, hu⟩ := others.take n
      exact ⟨u, .next first hu⟩

/-! ## 3. What a stream has written -/

/-- **A pipeline that is not atomic reports exactly what the sink has accepted.** The report lists
    these files in order, it counts them, and for every number of items the sink has accepted the
    files of their outcomes when they are processed: none is listed under another item. -/
theorem processAll_accounted (sink : Sink σ) (hk : sink.Keeps kept) (p : Pipeline ρ)
    (ha : p.config.atomic.isTrue = false) (s : σ) (items : List (Option InputDocument)) :
    ∃ r v, (Stream.start p s).processAll sink items = (v, .ok r) ∧
      r.outcomes.length = items.length ∧
      kept v.sink = kept s ++ r.outcomes.flatMap (·.files) ∧
      (kept v.sink).length = (kept s).length + r.filesWritten ∧
      ∀ n, kept ((Stream.start p s).processAll sink (items.take n)).1.sink =
        kept s ++ (r.outcomes.take n).flatMap (·.files) := by
  rcases processList_cases sink items (.start p s) with
    ⟨os, v, hrun⟩ | ⟨pre, d, post, os, v, e, _, hrun, hatomic, _⟩
  · have hkept := hrun.kept_sink hk ha
    refine ⟨⟨os⟩, v, processAll_of_run hrun, (answeredBy_of_run hrun).length_eq, hkept, ?_, ?_⟩
    · rw [hkept, List.length_append]
      rfl
    · intro n
      obtain ⟨u, hu⟩ := hrun.take n
      rw [processAll_of_run hu]
      exact hu.kept_sink hk ha
  · -- a file that is refused late belongs to an atomic pipeline
    rw [hrun.answered.2.2] at hatomic
    exact absurd (ha.symm.trans hatomic) Bool.false_ne_true

end Stream

/-! ## 4. A sink that takes one file -/

/-- A pipeline has the configuration it was set up with. -/
theorem Pipeline.config_ofEngine {tree : FileTree} {c : Config} {e : Engine} {p : Pipeline Engine}
    (h : Pipeline.ofEngine tree c e = .ok p) : p.config = c := by
  obtain ⟨_, hg, _⟩ := Pipeline.ofEngine_eq_ok.mp h
  exact (Generator.ofConfig_eq_ok.mp hg).1

/-- Two documents and a sink that takes one file: the file is listed under the first document. -/
theorem processAll_accounted_empty : ∃ p r v,
    Pipeline.ofEngine ⟨[], []⟩ Config.standard plainEngine = .ok p ∧
    (Stream.start p []).processAll (failingSink 1) emptyDocuments = (v, .ok r) ∧
    v.sink = r.outcomes.flatMap (·.files) ∧ v.sink = [⟨"index.js", "index", none⟩] := by
  have hsink : (match Pipeline.ofEngine ⟨[], []⟩ Config.standard plainEngine with
    | .ok p => ((Stream.start p []).processAll (failingSink 1) emptyDocuments).1.sink
    | .error _ => []) = [⟨"index.js", "index", none⟩] := by decide +kernel
  cases hp : Pipeline.ofEngine ⟨[], []⟩ Config.standard plainEngine with
  | error problem =>
      rw [hp] at hsink
      cases hsink
  | ok p =>
      rw [hp] at hsink
      have ha : p.config.atomic.isTrue = false := by
        rw [Pipeline.config_ofEngine hp]
        rfl
      obtain ⟨r, v, hr, _, hkept, _⟩ := Stream.processAll_accounted (failingSink 1)
        (Sink.failingSink_keeps 1) p ha [] emptyDocuments
      refine ⟨p, r, v, rfl, hr, hkept, ?_⟩
      simp only [hr] at hsink
      exact hsink

end DomainGen

namespace DomainGen

variable {ρ σ τ : Type} {sink : Sink σ} {other : Sink τ} {kept : σ → List GeneratedFile}
  {kept' : τ → List GeneratedFile}

namespace Pipeline

/-! ## 5. Pipelines that differ in one setting -/

/-- The pipeline with another value of the setting that holds files back. -/
def withAtomic (p : Pipeline ρ) (flag : Data) : Pipeline ρ :=
  { p with generator := { p.generator with config := { p.config with atomic := flag } } }

/-- **Setting up looks at the setting nowhere.** -/
theorem ofEngine_withAtomic {tree : FileTree} {c : Config} {e : Engine} {p : Pipeline Engine}
    (h : ofEngine tree c e = .ok p) (flag : Data) :
    ofEngine tree { c with atomic := flag } e = .ok (p.withAtomic flag) := by
  obtain ⟨required, hg, hrequired, hengine, hrender⟩ := ofEngine_eq_ok.mp h
  obtain ⟨rfl, hfolder, haggregate, hkinds⟩ := Generator.ofConfig_eq_ok.mp hg
  have hg' : Generator.ofConfig tree.workingFolder { p.config with atomic := flag } =
      .ok (p.withAtomic flag).generator :=
    Generator.ofConfig_eq_ok.mpr ⟨rfl, hfolder, haggregate, hkinds⟩
  exact ofEngine_eq_ok.mpr ⟨required, hg', hrequired, hengine, hrender⟩

/-- An attempt does not look at the setting. -/
theorem attempt_withAtomic (p : Pipeline ρ) (flag : Data) (sink : Sink σ) (d : InputDocument)
    (s : σ) : (p.withAtomic flag).attempt sink d s = p.attempt sink d s := rfl

theorem processAtomically_withAtomic (p : Pipeline ρ) (flag : Data) (sink : Sink σ)
    (d : InputDocument) (s : σ) :
    (p.withAtomic flag).processAtomically sink d s = p.processAtomically sink d s := by
  unfold processAtomically
  rw [attempt_withAtomic]

theorem processDirectly_withAtomic (p : Pipeline ρ) (flag : Data) (sink : Sink σ)
    (d : InputDocument) (s : σ) :
    (p.withAtomic flag).processDirectly sink d s = p.processDirectly sink d s := by
  unfold processDirectly
  rw [attempt_withAtomic]

/-! ## 6. One document in both -/

/-- What an atomic pipeline holds back are the files the direct one hands over. -/
theorem heldBack_alike (ha : sink.AcceptsAll) (p : Pipeline ρ) (d : InputDocument) (s : τ) (t : σ) :
    (p.heldBack d s).failure = (p.attempt (recordingSink sink) d ⟨t, []⟩).failure ∧
    (p.heldBack d s).sink.pending = (p.attempt (recordingSink sink) d ⟨t, []⟩).sink.files := by
  have hsinks : Sink.Agree (fun b r => b.pending = r.files)
      (bufferedSink : Sink (Buffered (Recorded τ))) (recordingSink sink) :=
    Sink.agree_acceptsAll Sink.bufferedSink_acceptsAll (Sink.recordingSink_acceptsAll ha)
      Sink.bufferedSink_keeps (Sink.recordingSink_keeps sink)
  obtain ⟨hfailure, -, hfiles⟩ := attempt_agree hsinks (.refl p) d (s := ⟨⟨s, []⟩, []⟩)
    (t := ⟨t, []⟩) rfl
  exact ⟨hfailure, hfiles⟩

theorem processDirectly_failed {p : Pipeline ρ} {d : InputDocument} {s : σ} {f : Failure}
    (h : (p.attempt (recordingSink sink) d ⟨s, []⟩).failure = some f) :
    (p.processDirectly sink d s).2.2 =
      .failed d (p.attempt (recordingSink sink) d ⟨s, []⟩).sink.files f := by
  unfold processDirectly
  dsimp only
  rw [h]

theorem processDirectly_generated {p : Pipeline ρ} {d : InputDocument} {s : σ}
    (h : (p.attempt (recordingSink sink) d ⟨s, []⟩).failure = none) :
    (p.processDirectly sink d s).2.2 =
      .generated d (p.attempt (recordingSink sink) d ⟨s, []⟩).sink.files := by
  unfold processDirectly
  dsimp only
  rw [h]

/-- **An atomic pipeline hands over all files of the direct one, or none**, and its outcome is the
    same but for the files of a failure. -/
theorem processAtomically_direct (ha : sink.AcceptsAll) (hb : other.AcceptsAll)
    (hk : sink.Keeps kept) (p : Pipeline ρ) (d : InputDocument) (s : σ) (t : τ) :
    ∃ engine u x, p.processAtomically sink d s = (engine, u, .ok x) ∧
      x.source = (p.processDirectly other d t).2.2.source ∧
      x.status = (p.processDirectly other d t).2.2.status ∧
      x.failure = (p.processDirectly other d t).2.2.failure ∧
      ((x.status = .generated ∧ x.files = (p.processDirectly other d t).2.2.files ∧
          kept u = kept s ++ x.files) ∨
        (x.status = .failed ∧ x.files = [] ∧ u = s)) := by
  obtain ⟨hfailure, hfiles⟩ := p.heldBack_alike hb d s t
  cases hf : (p.heldBack d s).failure with
  | some f =>
      refine ⟨_, _, _, processAtomically_failed hf, ?_⟩
      rw [processDirectly_failed (hfailure.symm.trans hf)]
      exact ⟨rfl, rfl, rfl, Or.inr ⟨rfl, rfl, rfl⟩⟩
  | none =>
      obtain ⟨u, hu, hkept⟩ := Sink.takes_of_acceptsAll ha hk (p.heldBack d s).sink.pending s
      refine ⟨_, _, _, processAtomically_taken hf hu, ?_⟩
      rw [processDirectly_generated (hfailure.symm.trans hf)]
      exact ⟨rfl, rfl, rfl, Or.inl ⟨rfl, hfiles, hkept⟩⟩

end Pipeline

/-! ## 7. Main result -/

/-- What a stream is after an outcome that answers a document. -/
theorem Stream.after_ok (w : Stream ρ σ) (engine : ρ) (s : σ) (o : Outcome) :
    w.after engine s (.ok o) =
      (⟨{ w.pipeline with engine }, s, w.reported ++ o.complaint.toList⟩, .ok o) := rfl

/-- **An atomic pipeline does what the direct one does, or nothing.** Two pipelines that differ only
    in the setting process a document, each into a sink of its own that refuses nothing. Both
    outcomes have the same status and the same failure, which is reported alike. If the document is
    generated, both sinks have received the same files and both outcomes list them; if it failed, the
    atomic pipeline has left its sink untouched, and the direct one lists what its sink has
    received. -/
theorem process_atomic_direct (p : Pipeline ρ) {on off : Data} (hon : on.isTrue = true)
    (hoff : off.isTrue = false) (ha : sink.AcceptsAll) (hb : other.AcceptsAll)
    (hk : sink.Keeps kept) (hk' : other.Keeps kept') (d : InputDocument) (s : σ) (t : τ) :
    ∃ x y v w, (Stream.start (p.withAtomic on) s).process sink (some d) = (v, .ok x) ∧
      (Stream.start (p.withAtomic off) t).process other (some d) = (w, .ok y) ∧
      x.status = y.status ∧ x.failure = y.failure ∧ v.reported = w.reported ∧
      ((x.status = .generated ∧ x.files = y.files ∧ kept v.sink = kept s ++ x.files ∧
          kept' w.sink = kept' t ++ y.files) ∨
        (x.status = .failed ∧ x.files = [] ∧ v.sink = s ∧ kept' w.sink = kept' t ++ y.files)) := by
  obtain ⟨engine, u, x, hx, hsource, hstatus, hfailure, hleft⟩ :=
    p.processAtomically_direct ha hb hk d s t
  have hkept := p.processDirectly_kept hk' d t
  have hcomplaint : x.complaint = (p.processDirectly other d t).2.2.complaint := by
    unfold Outcome.complaint
    rw [hsource, hfailure]
  have hstart : (Stream.start (p.withAtomic on) s).pipeline.config.atomic.isTrue = true := hon
  have hstart' : (Stream.start (p.withAtomic off) t).pipeline.config.atomic.isTrue = false := hoff
  have hatomic : (Stream.start (p.withAtomic on) s).process sink (some d) = _ :=
    Stream.process_atomic hstart d
  have hdirect : (Stream.start (p.withAtomic off) t).process other (some d) = _ :=
    Stream.process_direct hstart' d
  unfold Stream.start at hatomic hdirect
  rw [p.processAtomically_withAtomic, hx, Stream.after_ok, hcomplaint] at hatomic
  rw [p.processDirectly_withAtomic, Stream.after_ok] at hdirect
  refine ⟨x, _, _, _, hatomic, hdirect, hstatus, hfailure, rfl, ?_⟩
  rcases hleft with ⟨hgenerated, hfiles, hu⟩ | ⟨hfailed, hnone, rfl⟩
  · exact Or.inl ⟨hgenerated, hfiles, hu, hkept⟩
  · exact Or.inr ⟨hfailed, hnone, rfl, hkept⟩

/-! ## 8. A document that fails on its way -/

/-- A document with two aggregates that have one path. -/
def twinsInput : InputDocument := ⟨"twins", "aggregates: {order: {}, Order: {}}"⟩

/-- The first of the two aggregates stays with the direct pipeline and not with the atomic one. -/
theorem process_atomic_direct_twins : ∃ (p : Pipeline Engine) (x y : Outcome) (v w : Stream _ _),
    Pipeline.ofEngine ⟨[], []⟩ { Config.standard with atomic := .bool true } plainEngine =
      .ok (p.withAtomic (.bool true)) ∧
    Pipeline.ofEngine ⟨[], []⟩ { Config.standard with atomic := .bool false } plainEngine =
      .ok (p.withAtomic (.bool false)) ∧
    (Stream.start (p.withAtomic (.bool true)) []).process memorySink (some twinsInput) =
      (v, .ok x) ∧
    (Stream.start (p.withAtomic (.bool false)) []).process memorySink (some twinsInput) =
      (w, .ok y) ∧
    x.failure = y.failure ∧ x.files = [] ∧ v.sink = [] ∧ w.sink = y.files ∧
    w.sink = [⟨"aggregates/order-aggregate.js", "aggregate", some "OrderAggregate"⟩] := by
  have hrun : (match Pipeline.ofEngine ⟨[], []⟩ Config.standard plainEngine with
    | .ok p => match (Stream.start (p.withAtomic (.bool false)) []).process memorySink
        (some twinsInput) with
      | (w, .ok y) => some (y.status, w.sink)
      | (_, .error _) => none
    | .error _ => none) = some (.failed,
      [⟨"aggregates/order-aggregate.js", "aggregate", some "OrderAggregate"⟩]) := by
    decide +kernel
  cases hp : Pipeline.ofEngine ⟨[], []⟩ Config.standard plainEngine with
  | error problem =>
      rw [hp] at hrun
      cases hrun
  | ok p =>
      have hon : (Data.bool true).isTrue = true := rfl
      have hoff : (Data.bool false).isTrue = false := rfl
      obtain ⟨x, y, v, w, hx, hy, hstatus, hfailure, _, hleft⟩ :=
        process_atomic_direct p hon hoff
          Sink.memorySink_acceptsAll Sink.memorySink_acceptsAll Sink.memorySink_keeps
          Sink.memorySink_keeps twinsInput [] []
      simp only [hp, hy, Option.some.injEq, Prod.mk.injEq] at hrun
      refine ⟨p, x, y, v, w, Pipeline.ofEngine_withAtomic hp _, Pipeline.ofEngine_withAtomic hp _,
        hx, hy, hfailure, ?_⟩
      rcases hleft with ⟨hgenerated, _⟩ | ⟨_, hfiles, hv, hw⟩
      · rw [hstatus, hrun.1] at hgenerated
        cases hgenerated
      · exact ⟨hfiles, hv, hw, hrun.2⟩

end DomainGen
