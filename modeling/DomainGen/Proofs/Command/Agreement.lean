import DomainGen.Command.Run
import DomainGen.Proofs.Pipeline.Agreement

/-!
# Sessions that agree

A session meets the file tree its sink has left whenever it reads an input. Sessions over sinks that
agree are therefore alike as long as their inputs read the same in both trees, if the renderers of their
pipelines agree.

* `Session.serve_sink_induct` : what no file destroys in the sink, a session does not destroy;
* `Session.Related` : two sessions have done and told the same, over sinks that are related;
* `Session.serve_agreeUntil` : **sessions over sinks that agree serve all inputs alike**, unless the sinks
  part;
* `runInputs_agree` : so runs over their inputs end alike.
-/

namespace DomainGen.Command

variable {ρ ρ' σ τ : Type} {R : ρ → ρ' → Prop} {S B : σ → τ → Prop} {sink : Sink σ}
  {other : Sink τ} {treeOf : σ → FileTree} {treeOf' : τ → FileTree} {w : World}

namespace Session

/-! ## 1. The sink of a session -/

section Sink

variable {I : σ → Prop} (hI : ∀ s f, I s → I (sink s f).1)
include hI

theorem take_sink_induct (s : Session ρ σ) (d : InputDocument) (h : I s.stream.sink) :
    I (s.take sink d).1.stream.sink := by
  have hprocess := Stream.process_sink_induct hI s.stream (some d) h
  unfold take
  dsimp only
  rw [show (s.print ("📄 Loaded: " ++ d.source)).stream = s.stream from rfl]
  rcases hp : s.stream.process sink (some d) with ⟨v, f | o⟩ <;> rw [hp] at hprocess
  · exact hprocess
  · dsimp only
    cases outcomeText? o <;> exact hprocess

/-- What no file destroys in the sink, serving inputs does not destroy. -/
theorem serve_sink_induct : ∀ (inputs : List Input) {s : Session ρ σ}, I s.stream.sink →
    I (s.serve sink treeOf w inputs).1.stream.sink
  | [], _, h => h
  | input :: rest, s, h => by
      rw [serve_cons]
      split
      · exact serve_sink_induct rest h
      · exact h
      · rename_i d _
        have htaken := take_sink_induct hI (s.asked treeOf w input) d h
        split
        · rename_i hp
          rw [hp] at htaken
          exact htaken
        · rename_i hp
          rw [hp] at htaken
          exact serve_sink_induct rest htaken

end Sink

/-! ## 2. Two sessions -/

/-- Two sessions have done and told the same, in streams that are related. -/
structure Related (R : ρ → ρ' → Prop) (S : σ → τ → Prop) (s : Session ρ σ) (t : Session ρ' τ) :
    Prop where
  stream : s.stream.Related R S t.stream
  outcomes_eq : s.outcomes = t.outcomes
  inputErrors_eq : s.inputErrors = t.inputErrors
  requests_eq : s.requests = t.requests
  screen_eq : s.screen = t.screen

variable {s : Session ρ σ} {t : Session ρ' τ}

theorem Related.print (h : s.Related R S t) (text : String) : (s.print text).Related R S (t.print text) :=
  { h with screen_eq := congrArg (· ++ Console.linesOf text) h.screen_eq }

theorem Related.report (h : s.Related R S t) (source reason : String) :
    (s.report source reason).Related R S (t.report source reason) :=
  { h.print _ with inputErrors_eq := congrArg (· ++ [(source, reason)]) h.inputErrors_eq }

theorem Related.asked {input : Input} (h : s.Related R S t)
    (hread : input.read { w with tree := treeOf s.stream.sink } =
      input.read { w with tree := treeOf' t.stream.sink }) :
    (s.asked treeOf w input).Related R S (t.asked treeOf' w input) :=
  { h with requests_eq := congrArg₂ (· ++ ·) h.requests_eq (congrArg Prod.fst hread) }

/-- **A document is taken alike** over sinks that agree, unless these part. -/
theorem take_agreeUntil (hs : Sink.AgreeUntil S B sink other) (h : s.Related R S t)
    (d : InputDocument) :
    B (s.take sink d).1.stream.sink (t.take other d).1.stream.sink ∨
      (s.take sink d).1.Related R S (t.take other d).1 ∧ (s.take sink d).2 = (t.take other d).2 := by
  have hloaded := h.print ("📄 Loaded: " ++ d.source)
  have hitem := Stream.process_agreeUntil hs hloaded.stream (some d)
  unfold take
  dsimp only
  generalize s.print ("📄 Loaded: " ++ d.source) = s' at hloaded hitem ⊢
  generalize t.print ("📄 Loaded: " ++ d.source) = t' at hloaded hitem ⊢
  rcases hp : s'.stream.process sink (some d) with ⟨v, f | o⟩ <;>
    rcases hq : t'.stream.process other (some d) with ⟨v', f' | o'⟩ <;>
    rw [hp, hq] at hitem <;> dsimp only
  · refine hitem.imp_right fun ⟨hstream, hfault⟩ => ⟨{ hloaded with stream := hstream }, ?_⟩
    cases hfault
    rfl
  · cases outcomeText? o' <;> exact hitem.imp_right fun h => by cases h.2
  · cases outcomeText? o <;> exact hitem.imp_right fun h => by cases h.2
  · rcases hitem with hparted | ⟨hstream, houtcome⟩
    · left
      cases outcomeText? o <;> cases outcomeText? o' <;> exact hparted
    · cases houtcome
      have hnext : Related R S { s' with stream := v, outcomes := s'.outcomes ++ [o] }
          { t' with stream := v', outcomes := t'.outcomes ++ [o] } :=
        { hloaded with
          stream := hstream, outcomes_eq := congrArg (· ++ [o]) hloaded.outcomes_eq }
      cases outcomeText? o with
      | none => exact Or.inr ⟨hnext, rfl⟩
      | some text => exact Or.inr ⟨hnext.print text, rfl⟩

/-- **Inputs are served alike** over sinks that agree, unless these part, if the inputs read the same in
    the trees that related sinks leave. -/
theorem serve_agreeUntil (hs : Sink.AgreeUntil S B sink other) :
    ∀ {inputs : List Input} {s : Session ρ σ} {t : Session ρ' τ},
      (∀ {u v}, S u v → B u v ∨ ∀ input ∈ inputs, input.read { w with tree := treeOf u } =
        input.read { w with tree := treeOf' v }) → s.Related R S t →
      B (s.serve sink treeOf w inputs).1.stream.sink (t.serve other treeOf' w inputs).1.stream.sink ∨
        (s.serve sink treeOf w inputs).1.Related R S (t.serve other treeOf' w inputs).1 ∧
          (s.serve sink treeOf w inputs).2 = (t.serve other treeOf' w inputs).2
  | [], s, t, _, h => Or.inr ⟨h, rfl⟩
  | input :: rest, s, t, hread, h => by
      have hleft : ∀ (inputs : List Input) {s : Session ρ σ} {v : τ}, B s.stream.sink v →
          B (s.serve sink treeOf w inputs).1.stream.sink v := fun inputs {_ v} hb =>
        serve_sink_induct (I := fun u => B u v) (fun _ f hb => hs.left hb f) inputs hb
      have hright : ∀ (inputs : List Input) {u : σ} {t : Session ρ' τ}, B u t.stream.sink →
          B u (t.serve other treeOf' w inputs).1.stream.sink := fun inputs {u _} hb =>
        serve_sink_induct (I := fun v => B u v) (fun _ f hb => hs.right hb f) inputs hb
      rcases hread h.stream.sink with hparted | hsame
      · exact Or.inl (hleft _ (hright _ hparted))
      have hrest : ∀ {u v}, S u v → B u v ∨ ∀ input ∈ rest,
          input.read { w with tree := treeOf u } = input.read { w with tree := treeOf' v } :=
        fun huv => (hread huv).imp_right fun hall input hi => hall input (List.mem_cons_of_mem _ hi)
      have hinput := hsame input List.mem_cons_self
      have hasked := h.asked hinput
      rw [serve_cons, serve_cons, hinput]
      rcases (input.read { w with tree := treeOf' t.stream.sink }).2 with f | d
      · cases f with
        | loading e => exact serve_agreeUntil hs hrest (hasked.report input.label e.message)
        | _ => exact Or.inr ⟨hasked, rfl⟩
      · have htaken := take_agreeUntil hs hasked d
        dsimp only
        generalize (s.asked treeOf w input).take sink d = a at htaken ⊢
        generalize (t.asked treeOf' w input).take other d = b at htaken ⊢
        obtain ⟨s', _ | f⟩ := a <;> obtain ⟨t', _ | f'⟩ := b
        · rcases htaken with hparted | ⟨hnext, _⟩
          · exact Or.inl (hleft rest (hright rest hparted))
          · exact serve_agreeUntil hs hrest hnext
        · exact htaken.imp (hleft rest) fun h => by cases h.2
        · exact htaken.imp (hright rest) fun h => by cases h.2
        · exact htaken.imp_right fun ⟨hnext, hfault⟩ => ⟨hnext, congrArg (Option.map Failure.fault) hfault⟩

/-! ## 3. The end of a session -/

theorem Related.exitCode_eq (h : s.Related R S t) : s.exitCode = t.exitCode := by
  unfold exitCode isEmpty ok toReport
  rw [h.outcomes_eq, h.inputErrors_eq]

theorem Related.finish (h : s.Related R S t) (listFiles : Bool) (destination : Destination) :
    (s.finish listFiles destination).Related R S (t.finish listFiles destination) := by
  have hreport : s.toReport = t.toReport := congrArg Report.mk h.outcomes_eq
  have hempty : s.isEmpty = t.isEmpty := by
    unfold isEmpty
    rw [h.outcomes_eq, h.inputErrors_eq]
  have hlisted : Related R S
      (if listFiles then { s with screen := s.screen ++ [""] ++ (filesTable t.toReport).lines } else s)
      (if listFiles then { t with screen := t.screen ++ [""] ++ (filesTable t.toReport).lines }
        else t) := by
    cases listFiles with
    | true => exact { h with screen_eq := congrArg (· ++ [""] ++ _) h.screen_eq }
    | false => exact h
  unfold Session.finish
  dsimp only
  rw [hreport, hempty]
  split
  · exact h.print _
  · rw [hlisted.inputErrors_eq]
    exact hlisted.print _

end Session

/-- **Runs over their inputs end alike** with pipelines that are alike, over sinks that agree and leave
    the same tree in related states. -/
theorem runInputs_agree {p : Pipeline ρ} {q : Pipeline ρ'} (hp : p.Alike R q)
    (hs : Sink.Agree S sink other) (htree : ∀ {u v}, S u v → treeOf u = treeOf' v)
    {start : σ} {start' : τ} (hstart : S start start') (destination : Destination) (w : World)
    (a : Arguments) (screen : List String) :
    runInputs sink treeOf destination start w a p screen =
      runInputs other treeOf' destination start' w a q screen := by
  unfold runInputs
  dsimp only
  cases inputsOf w.tree a with
  | error f =>
      dsimp only
      rw [htree hstart]
  | ok inputs =>
      have hbegin : Session.Related R S { Session.start p start with screen }
          { Session.start q start' with screen } :=
        ⟨⟨hp, hstart, rfl⟩, rfl, rfl, rfl, rfl⟩
      have hread : ∀ {u v}, S u v → False ∨ ∀ input ∈ inputs,
          input.read { w with tree := treeOf u } = input.read { w with tree := treeOf' v } :=
        fun huv => Or.inr fun input _ => by rw [htree huv]
      obtain ⟨hend, hfailed⟩ := (Session.serve_agreeUntil hs.until hread hbegin).resolve_left id
      dsimp only
      generalize Session.serve sink treeOf w _ inputs = r at hend hfailed ⊢
      generalize Session.serve other treeOf' w _ inputs = r' at hend hfailed ⊢
      obtain ⟨s, f⟩ := r
      obtain ⟨t, f'⟩ := r'
      obtain rfl : f = f' := hfailed
      cases f with
      | some f =>
          dsimp only
          rw [hend.screen_eq, hend.requests_eq, htree hend.stream.sink]
      | none =>
          have hfinished := hend.finish (a.dryRun || a.verbose) destination
          dsimp only
          rw [hfinished.exitCode_eq, hfinished.screen_eq, hfinished.requests_eq,
            htree hfinished.stream.sink]

end DomainGen.Command
