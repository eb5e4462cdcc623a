import DomainGen.Command.Run
import DomainGen.Proofs.Pipeline.Host

/-!
# What the exit code tells

A command can fail before it has an input, in reading one while the inputs before it are generated
already, and in every document. Each of these failures is told in a way of its own, and all of them are in
the exit code: it is zero only if there was something to do and all of it was done.

* `Served` : inputs are read and processed, one after the other;
* `Session.serve_taken`, `serve_told`, `serve_stuck`, `serve_broken` : what a session does with the first
  of its inputs;
* `Session.serve_of_served`, `Session.served_of_serve` : **a session without complaints has served all
  inputs**, and the other way round;
* `Arguments.Starts` : a command gets as far as its inputs; `Succeeds` : it does all it was asked for;
* `exit_iff_succeeds` : **the exit code is zero exactly then**, and one otherwise.
-/

namespace DomainGen.Command

variable {ρ σ : Type} {sink : Sink σ} {treeOf : σ → FileTree} {w : World}

/-! ## 1. Inputs that are served -/

/-- Every input is read as the documents before it have left it, and its document has an outcome. -/
inductive Served (sink : Sink σ) (treeOf : σ → FileTree) (w : World) :
    Stream ρ σ → List Input → List Outcome → Stream ρ σ → Prop where
  /-- There are no inputs. -/
  | done {v : Stream ρ σ} : Served sink treeOf w v [] [] v
  /-- An input comes before others. -/
  | next {v u t : Stream ρ σ} {input : Input} {inputs : List Input} {d : InputDocument} {o : Outcome}
      {os : List Outcome} (read : (input.read { w with tree := treeOf v.sink }).2 = .ok d)
      (processed : v.process sink (some d) = (u, .ok o))
      (others : Served sink treeOf w u inputs os t) :
      Served sink treeOf w v (input :: inputs) (o :: os) t

/-- A document that was served is generated unless it failed. -/
theorem Served.generated_iff {v u : Stream ρ σ} {inputs : List Input} {os : List Outcome}
    (h : Served sink treeOf w v inputs os u) :
    (∀ o ∈ os, o.status ≠ .failed) ↔ ∀ o ∈ os, o.status = .generated := by
  induction h with
  | done =>
      exact iff_of_true (fun _ ho => absurd ho List.not_mem_nil)
        (fun _ ho => absurd ho List.not_mem_nil)
  | @next _ _ _ _ _ _ o _ _ processed _ ih =>
      have hstatus : o.status ≠ .failed ↔ o.status = .generated := by
        rcases (Stream.answered_of_process processed).answers.2 with ⟨h, _⟩ | ⟨h, _⟩
        · rw [h]
          decide
        · rw [h]
          decide
      rw [List.forall_mem_cons, List.forall_mem_cons, ih, hstatus]

/-! ## 2. Sessions -/

namespace Session

variable {s : Session ρ σ}

/-- A document that has an outcome is taken: the outcome stands behind the others. -/
theorem take_of_process {d : InputDocument} {v : Stream ρ σ} {o : Outcome}
    (h : s.stream.process sink (some d) = (v, .ok o)) : ∃ next, s.take sink d = (next, none) ∧
      next.stream = v ∧ next.outcomes = s.outcomes ++ [o] ∧ next.inputErrors = s.inputErrors := by
  have hprinted : (s.print ("📄 Loaded: " ++ d.source)).stream.process sink (some d) = (v, .ok o) := h
  unfold take
  simp only [hprinted]
  cases outcomeText? o <;> exact ⟨_, rfl, rfl, rfl, rfl⟩

/-- A document that cannot be passed on ends the session with the stream as it is then. -/
theorem take_of_fault {d : InputDocument} {v : Stream ρ σ} {f : Fault}
    (h : s.stream.process sink (some d) = (v, .error f)) : ∃ next, s.take sink d = (next, some f) ∧
      next.stream = v ∧ next.outcomes = s.outcomes ∧ next.inputErrors = s.inputErrors := by
  have hprinted : (s.print ("📄 Loaded: " ++ d.source)).stream.process sink (some d) =
      (v, .error f) := h
  unfold take
  simp only [hprinted]
  exact ⟨_, rfl, rfl, rfl, rfl⟩

section First

variable {input : Input} (inputs : List Input)

/-- The document of an input is processed, and the session goes on. -/
theorem serve_taken {d : InputDocument} {v : Stream ρ σ} {o : Outcome}
    (hread : (input.read { w with tree := treeOf s.stream.sink }).2 = .ok d)
    (hprocess : s.stream.process sink (some d) = (v, .ok o)) :
    ∃ next : Session ρ σ,
      s.serve sink treeOf w (input :: inputs) = next.serve sink treeOf w inputs ∧
      next.stream = v ∧ next.outcomes = s.outcomes ++ [o] ∧ next.inputErrors = s.inputErrors := by
  obtain ⟨next, htake, hnext⟩ := take_of_process (s := s.asked treeOf w input) hprocess
  refine ⟨next, ?_, hnext⟩
  rw [serve_cons, hread]
  dsimp only
  rw [htake]

/-- The document of an input cannot be passed on, and the session ends. -/
theorem serve_stuck {d : InputDocument} {v : Stream ρ σ} {f : Fault}
    (hread : (input.read { w with tree := treeOf s.stream.sink }).2 = .ok d)
    (hprocess : s.stream.process sink (some d) = (v, .error f)) :
    ∃ next, s.serve sink treeOf w (input :: inputs) = (next, some (.fault f)) ∧
      next.stream = v ∧ next.outcomes = s.outcomes ∧ next.inputErrors = s.inputErrors := by
  obtain ⟨next, htake, hnext⟩ := take_of_fault (s := s.asked treeOf w input) hprocess
  refine ⟨next, ?_, hnext⟩
  rw [serve_cons, hread]
  dsimp only
  rw [htake]

variable (sink)

/-- An input cannot be read. This is told, and the session goes on. -/
theorem serve_told {e : LoadError}
    (hread : (input.read { w with tree := treeOf s.stream.sink }).2 = .error (.loading e)) :
    ∃ next : Session ρ σ,
      s.serve sink treeOf w (input :: inputs) = next.serve sink treeOf w inputs ∧
      next.stream = s.stream ∧ next.outcomes = s.outcomes ∧
      next.inputErrors = s.inputErrors ++ [(input.label, e.message)] := by
  refine ⟨(s.asked treeOf w input).report input.label e.message, ?_, rfl, rfl, rfl⟩
  rw [serve_cons, hread]

/-- Reading an input ends in another failure, and so does the session. -/
theorem serve_broken {f : Failure}
    (hread : (input.read { w with tree := treeOf s.stream.sink }).2 = .error f)
    (hother : ∀ e, f ≠ .loading e) : ∃ next, s.serve sink treeOf w (input :: inputs) = (next, some f) ∧
      next.stream = s.stream ∧ next.outcomes = s.outcomes ∧ next.inputErrors = s.inputErrors := by
  refine ⟨s.asked treeOf w input, ?_, rfl, rfl, rfl⟩
  rw [serve_cons, hread]
  cases f with
  | loading e => exact absurd rfl (hother e)
  | _ => rfl

end First

/-- **Inputs that are served leave no complaint.** -/
theorem serve_of_served {v u : Stream ρ σ} {inputs : List Input} {os : List Outcome}
    (h : Served sink treeOf w v inputs os u) : ∀ {s : Session ρ σ}, s.stream = v →
      ∃ next, s.serve sink treeOf w inputs = (next, none) ∧ next.outcomes = s.outcomes ++ os ∧
        next.inputErrors = s.inputErrors := by
  induction h with
  | done => exact fun {s} _ => ⟨s, rfl, (List.append_nil _).symm, rfl⟩
  | @next v u t input inputs d o os read processed _ ih =>
      rintro s rfl
      obtain ⟨next, hnext, hstream, houtcomes, herrors⟩ := serve_taken inputs read processed
      obtain ⟨last, hlast, hos, hes⟩ := ih hstream
      refine ⟨last, hnext.trans hlast, ?_, hes.trans herrors⟩
      rw [hos, houtcomes, List.append_assoc]
      rfl

/-- **A session that ends without complaints has served all inputs**, by recursion over the inputs: what
    one of them leaves unread or unfinished is never taken back. -/
theorem served_of_serve : ∀ {inputs : List Input} {s next : Session ρ σ},
    s.serve sink treeOf w inputs = (next, none) → next.inputErrors = [] →
      s.inputErrors = [] ∧ ∃ os u, Served sink treeOf w s.stream inputs os u ∧
        next.outcomes = s.outcomes ++ os
  | [], s, next, h, hnone => by
      cases h
      exact ⟨hnone, [], s.stream, .done, (List.append_nil _).symm⟩
  | input :: inputs, s, next, h, hnone => by
      cases hread : (input.read { w with tree := treeOf s.stream.sink }).2 with
      | error f =>
          by_cases hloading : ∃ e, f = .loading e
          · -- an input that could not be read stays among the complaints
            obtain ⟨e, rfl⟩ := hloading
            obtain ⟨told, htold, _, _, herrors⟩ := serve_told sink inputs hread
            obtain ⟨hclear, _⟩ := served_of_serve (htold ▸ h) hnone
            rw [herrors] at hclear
            exact absurd hclear (List.append_ne_nil_of_right_ne_nil _ (List.cons_ne_nil _ _))
          · obtain ⟨_, hended, _⟩ := serve_broken sink inputs hread (not_exists.mp hloading)
            cases hended.symm.trans h
      | ok d =>
          rcases hp : s.stream.process sink (some d) with ⟨u, f | o⟩
          · obtain ⟨_, hended, _⟩ := serve_stuck inputs hread hp
            cases hended.symm.trans h
          · obtain ⟨taken, htaken, hstream, houtcomes, herrors⟩ := serve_taken inputs hread hp
            obtain ⟨hclear, os, t, hserved, hos⟩ := served_of_serve (htaken ▸ h) hnone
            refine ⟨herrors.symm.trans hclear, o :: os, t, .next hread hp (hstream ▸ hserved), ?_⟩
            rw [hos, houtcomes, List.append_assoc]
            rfl

/-- What is told at the end changes no exit code. -/
theorem exitCode_finish (s : Session ρ σ) (listFiles : Bool) (destination : Destination) :
    (s.finish listFiles destination).exitCode = s.exitCode := by
  have hprint : ∀ (s : Session ρ σ) (text : String), (s.print text).exitCode = s.exitCode :=
    fun _ _ => rfl
  unfold finish
  dsimp only
  split
  · exact hprint s _
  · rw [hprint]
    split <;> rfl

end Session

/-- A session ends well exactly if nothing was left unread, there was something to process and nothing
    failed. -/
theorem Session.exitCode_eq_zero_iff (s : Session ρ σ) : s.exitCode = 0 ↔
    s.inputErrors = [] ∧ s.outcomes ≠ [] ∧ ∀ o ∈ s.outcomes, o.status ≠ .failed := by
  have hfailed : s.toReport.ok = true ↔ ∀ o ∈ s.outcomes, o.status ≠ .failed := by
    rw [Report.ok_iff]
    unfold Report.failed Session.toReport
    simp only [List.filter_eq_nil_iff, beq_iff_eq, ne_eq]
  rw [Session.exitCode_eq_zero]
  unfold Session.isEmpty Session.ok
  rw [Bool.and_eq_true, Bool.and_eq_false_iff, hfailed]
  simp only [List.isEmpty_iff, List.isEmpty_eq_false_iff]
  constructor
  · rintro ⟨hsome, hall, hread⟩
    exact ⟨hread, hsome.resolve_right fun hne => hne hread, hall⟩
  · rintro ⟨hread, hsome, hall⟩
    exact ⟨Or.inl hsome, hall, hread⟩

theorem Session.exitCode_cases (s : Session ρ σ) : s.exitCode = 0 ∨ s.exitCode = 1 := by
  unfold Session.exitCode
  split
  · exact Or.inr rfl
  · exact Or.inl rfl

/-! ## 3. Command lines -/

/-- All inputs that a command line names are served, there is one, and all documents are generated. -/
def AllGenerated (sink : Sink σ) (treeOf : σ → FileTree) (start : σ) (w : World) (a : Arguments)
    (p : Pipeline ρ) : Prop :=
  ∃ inputs os v, inputsOf w.tree a = .ok inputs ∧ Served sink treeOf w (.start p start) inputs os v ∧
    os ≠ [] ∧ ∀ o ∈ os, o.status = .generated

/-- What is generated is all a command was asked for. A dry run keeps its files in memory, any other run
    has them in its output folder. -/
def Completes (w : World) (a : Arguments) (p : Pipeline ρ) : Prop :=
  if a.dryRun then AllGenerated memorySink (fun _ => w.tree) [] w a p
  else a.cleared.contains .output = false ∧
    AllGenerated (directorySink (Path.ofString a.output) defaultEncoding) Directory.tree ⟨w.tree, []⟩
      w a p

/-- A command gets as far as its output: its configuration and its pipeline can be built, and the warnings
    about the configuration can be told if they are asked for. -/
structure Arguments.Starts (a : Arguments) (w : World) (c : Config) (p : Pipeline Engine) : Prop where
  configuration : a.configuration w.tree = .ok c
  warnings : a.verbose = true → ∃ ws, c.warnings = .ok ws
  pipeline : Pipeline.ofConfig w.tree c = .ok p

/-- A command does all it was asked for. -/
def Succeeds (w : World) (a : Arguments) : Prop := ∃ c p, a.Starts w c p ∧ Completes w a p

/-- **The exit code of a run over its inputs** is zero if all of them are served and generated, and one if
    not. -/
theorem exit_runInputs (destination : Destination) (start : σ) (a : Arguments) (p : Pipeline ρ)
    (screen : List String) :
    ((runInputs sink treeOf destination start w a p screen).exit = 0 ∧
        AllGenerated sink treeOf start w a p) ∨
      ((runInputs sink treeOf destination start w a p screen).exit = 1 ∧
        ¬ AllGenerated sink treeOf start w a p) := by
  unfold runInputs
  dsimp only
  cases hi : inputsOf w.tree a with
  | error f =>
      refine Or.inr ⟨rfl, ?_⟩
      rintro ⟨inputs, _, _, hinputs, _⟩
      cases hi.symm.trans hinputs
  | ok inputs =>
      have hserve : ∀ {inputs' os v}, inputsOf w.tree a = .ok inputs' →
          Served sink treeOf w (.start p start) inputs' os v → ∃ next,
            ({ Session.start p start with screen } : Session ρ σ).serve sink treeOf w inputs =
              (next, none) ∧ next.outcomes = os ∧ next.inputErrors = [] := by
        intro inputs' os v hinputs hserved
        obtain rfl := Except.ok.inj (hinputs.symm.trans hi)
        exact Session.serve_of_served hserved (s := { Session.start p start with screen }) rfl
      dsimp only
      rcases hs : ({ Session.start p start with screen } : Session ρ σ).serve sink treeOf w inputs with
        ⟨s, _ | f⟩
      · show (Session.exitCode (s.finish _ _) = 0 ∧ _) ∨ (Session.exitCode (s.finish _ _) = 1 ∧ _)
        rw [Session.exitCode_finish]
        have hwell : s.exitCode = 0 ↔ AllGenerated sink treeOf start w a p := by
          constructor
          · intro hzero
            obtain ⟨hread, hsome, hall⟩ := s.exitCode_eq_zero_iff.mp hzero
            obtain ⟨_, os, v, hserved, hos⟩ := Session.served_of_serve hs hread
            obtain rfl : s.outcomes = os := hos
            exact ⟨inputs, _, v, hi, hserved, hsome, hserved.generated_iff.mp hall⟩
          · rintro ⟨inputs', os, v, hinputs, hserved, hsome, hall⟩
            obtain ⟨next, hnext, rfl, hread⟩ := hserve hinputs hserved
            cases hs.symm.trans hnext
            exact s.exitCode_eq_zero_iff.mpr ⟨hread, hsome, hserved.generated_iff.mpr hall⟩
        rcases s.exitCode_cases with h | h
        · exact Or.inl ⟨h, hwell.mp h⟩
        · exact Or.inr ⟨h, fun hall => by cases h.symm.trans (hwell.mpr hall)⟩
      · refine Or.inr ⟨rfl, ?_⟩
        rintro ⟨inputs', os, v, hinputs, hserved, _⟩
        obtain ⟨next, hnext, _⟩ := hserve hinputs hserved
        cases hs.symm.trans hnext

/-- Without inputs nothing is generated. -/
theorem inputsOf_eq_nil {tree : FileTree} {a : Arguments} (h : a.namesInput = false) :
    inputsOf tree a = .ok [] := by
  unfold Arguments.namesInput at h
  rw [Bool.or_eq_false_iff, Bool.or_eq_false_iff] at h
  obtain ⟨⟨hfiles, hurl⟩, hstdin⟩ := h
  have hfiles : a.files = [] := List.isEmpty_iff.mp (by simpa using hfiles)
  have hurl : given? a.url = none := by simpa using hurl
  unfold inputsOf
  rw [hfiles, hurl, hstdin]
  rfl

theorem warningsOf_ok_iff {a : Arguments} {c : Config} : (∃ screen, warningsOf a c = .ok screen) ↔
    (a.verbose = true → ∃ ws, c.warnings = .ok ws) := by
  unfold warningsOf
  cases a.verbose with
  | false => exact iff_of_true ⟨_, rfl⟩ (fun h => by cases h)
  | true =>
      rw [if_pos rfl]
      simp only [except_map_eq_ok]
      exact ⟨fun ⟨_, ws, hws, _⟩ _ => ⟨ws, hws⟩, fun h => (h trivial).imp' _ fun ws hws => ⟨ws, hws, rfl⟩⟩

/-- Without inputs a command is not completed. -/
theorem not_completes {w : World} {a : Arguments} (h : a.namesInput = false) (p : Pipeline ρ) :
    ¬ Completes w a p := by
  have hnone : ∀ {τ : Type} {sink : Sink τ} {treeOf : τ → FileTree} {start : τ},
      ¬ AllGenerated sink treeOf start w a p := by
    rintro τ sink treeOf start ⟨inputs, os, v, hinputs, hserved, hsome, _⟩
    obtain rfl := Except.ok.inj ((inputsOf_eq_nil h).symm.trans hinputs)
    cases hserved
    exact hsome rfl
  unfold Completes
  split
  · exact hnone
  · exact fun hall => hnone hall.2

theorem exit_runPipeline (w : World) (a : Arguments) (p : Pipeline ρ) (screen : List String) :
    ((runPipeline w a p screen).exit = 0 ∧ Completes w a p) ∨
      ((runPipeline w a p screen).exit = 1 ∧ ¬ Completes w a p) := by
  unfold runPipeline Completes
  split
  · exact exit_runInputs ..
  · split
    · rename_i hcleared
      exact Or.inr ⟨rfl, fun h => by cases hcleared.symm.trans h.1⟩
    · rename_i hcleared
      rw [eq_false_of_ne_true hcleared]
      simp only [true_and]
      exact exit_runInputs ..

/-- **The exit code tells exactly of full success.** A command that does not list the template sets ends
    with zero if its configuration and its pipeline can be built, every input it names is read when its
    turn comes, there is one, and every document is generated; in all other cases it ends with one. -/
theorem exit_iff_succeeds (w : World) (a : Arguments) (h : a.listTemplateSets = false) :
    ((runCommand w a).exit = 0 ↔ Succeeds w a) ∧ ((runCommand w a).exit = 1 ↔ ¬ Succeeds w a) := by
  suffices hcases : ((runCommand w a).exit = 0 ∧ Succeeds w a) ∨
      ((runCommand w a).exit = 1 ∧ ¬ Succeeds w a) by
    rcases hcases with ⟨hexit, hall⟩ | ⟨hexit, hnot⟩
    · rw [hexit]
      exact ⟨iff_of_true rfl hall, iff_of_false (by decide) (not_not_intro hall)⟩
    · rw [hexit]
      exact ⟨iff_of_false (by decide) hnot, iff_of_true rfl hnot⟩
  unfold runCommand
  rw [h, if_neg Bool.false_ne_true]
  split
  · rename_i hnone
    refine Or.inr ⟨rfl, ?_⟩
    rintro ⟨c, p, _, hall⟩
    exact not_completes (by simpa using hnone) p hall
  · split
    · rename_i f hf
      refine Or.inr ⟨rfl, ?_⟩
      rintro ⟨c, p, hstarts, _⟩
      cases hf.symm.trans hstarts.configuration
    · rename_i c hc
      have hconfig : ∀ {c' p'}, a.Starts w c' p' → c' = c :=
        fun hstarts => Except.ok.inj (hstarts.configuration.symm.trans hc)
      split
      · rename_i f hf
        refine Or.inr ⟨rfl, ?_⟩
        rintro ⟨c', p, hstarts, _⟩
        obtain rfl := hconfig hstarts
        obtain ⟨screen, hscreen⟩ := warningsOf_ok_iff.mpr hstarts.warnings
        cases hf.symm.trans hscreen
      · rename_i screen hscreen
        split
        · rename_i f hf
          refine Or.inr ⟨rfl, ?_⟩
          rintro ⟨c', p, hstarts, _⟩
          obtain rfl := hconfig hstarts
          cases hf.symm.trans hstarts.pipeline
        · rename_i p hp
          have hsucceeds : Succeeds w a ↔ Completes w a p := by
            constructor
            · rintro ⟨c', p', hstarts, hall⟩
              obtain rfl := hconfig hstarts
              obtain rfl := Except.ok.inj (hstarts.pipeline.symm.trans hp)
              exact hall
            · exact fun hall => ⟨c, p, ⟨hc, warningsOf_ok_iff.mp ⟨screen, hscreen⟩, hp⟩, hall⟩
          rw [hsucceeds]
          exact exit_runPipeline w a p screen

/-- A folder with a template without tags for each role. -/
def templateTree : FileTree where
  nodes := (["t"], .folder) ::
    [("aggregate.j2", "aggregate"), ("command.j2", "command"), ("event.j2", "event"),
      ("fault.j2", "fault"), ("module.j2", "index")].map fun (name, text) =>
        (["t", name], .file text.toUTF8.toList)
  workingFolder := []

/-- Nothing but a text on the standard input, in front of that folder. -/
def typed (text : String) : World := ⟨templateTree, text, fun _ => .unreachable⟩

/-- A dry run with the templates of the folder and the standard input. -/
def dryTyped : Arguments :=
  { Arguments.standard with stdin := true, dryRun := true, templateDir := some "t" }

/-- A model is generated, a text that is none is not. -/
theorem exit_iff_succeeds_typed :
    ((runCommand (typed "aggregates: {}") dryTyped).exit = 0 ∧
      Succeeds (typed "aggregates: {}") dryTyped) ∧
    (runCommand (typed "aggregates: [") dryTyped).exit = 1 ∧
      ¬ Succeeds (typed "aggregates: [") dryTyped := by
  have hgood : (runCommand (typed "aggregates: {}") dryTyped).exit = 0 := by decide +kernel
  have hbad : (runCommand (typed "aggregates: [") dryTyped).exit = 1 := by decide +kernel
  exact ⟨⟨hgood, (exit_iff_succeeds _ dryTyped rfl).1.mp hgood⟩, hbad,
    (exit_iff_succeeds _ dryTyped rfl).2.mp hbad⟩

end DomainGen.Command
