import DomainGen.Proofs.Command.ExitCode
import DomainGen.Proofs.Command.Expansion
import DomainGen.Proofs.Loading.Sources
import DomainGen.Proofs.Pipeline.Isolation

/-!
# What becomes of the inputs of a session

A session takes its inputs in turn. An input that can be read becomes a document, which is processed
before the next input is looked at; one that cannot be read is told about and left behind. The session
goes on to the last input, unless reading one of them ends in a fault or a document that was held back
cannot be passed on.

* `Turn` : what became of an input; `Turns` : the turns of a session up to its end;
* `Turns.inputs` : **each input has one turn, in order**, if nothing ends the session early;
* `serve_turns`, `exists_turns` : **a session takes its turns**, and it always has some;
* `InputFault`, `read_failsAs`, `read_of_inputFault` : the faults in reading an input;
* `namedInputs`, `inputsOf_eq_ok` : the inputs that a command line names;
* `serve_outcome` : all of it together.
-/

namespace DomainGen.Command

variable {ρ σ : Type} {sink : Sink σ} {treeOf : σ → FileTree} {w : World}

/-! ## 1. Turns -/

/-- What became of an input: its document was processed, or it was told about. -/
inductive Turn where
  | taken (input : Input) (d : InputDocument) (o : Outcome)
  | told (input : Input) (e : LoadError)

namespace Turn

/-- The input. -/
def input : Turn → Input
  | taken input _ _ => input
  | told input _ => input

/-- The outcome of its document. -/
def outcome? : Turn → Option Outcome
  | taken _ _ o => some o
  | told _ _ => none

/-- What was told about it. -/
def complaint? : Turn → Option (String × String)
  | taken _ _ _ => none
  | told input e => some (input.label, e.message)

end Turn

/-- The turns of a session from a stream on, the stream they leave, and the failure that ends them early
    if one does. An input is read from the files as the turns before it have left them. -/
inductive Turns (sink : Sink σ) (treeOf : σ → FileTree) (w : World) :
    Stream ρ σ → List Input → List Turn → Stream ρ σ → Option Failure → Prop where
  /-- There are no inputs. -/
  | done {v : Stream ρ σ} : Turns sink treeOf w v [] [] v none
  /-- An input is read and its document is processed. -/
  | taken {v u t : Stream ρ σ} {input : Input} {inputs : List Input} {d : InputDocument} {o : Outcome}
      {turns : List Turn} {ending : Option Failure}
      (read : (input.read { w with tree := treeOf v.sink }).2 = .ok d)
      (processed : v.process sink (some d) = (u, .ok o))
      (others : Turns sink treeOf w u inputs turns t ending) :
      Turns sink treeOf w v (input :: inputs) (.taken input d o :: turns) t ending
  /-- An input cannot be read. -/
  | told {v t : Stream ρ σ} {input : Input} {inputs : List Input} {e : LoadError} {turns : List Turn}
      {ending : Option Failure}
      (read : (input.read { w with tree := treeOf v.sink }).2 = .error (.loading e))
      (others : Turns sink treeOf w v inputs turns t ending) :
      Turns sink treeOf w v (input :: inputs) (.told input e :: turns) t ending
  /-- Reading an input ends in another failure. -/
  | broken {v : Stream ρ σ} {input : Input} {inputs : List Input} {f : Failure}
      (read : (input.read { w with tree := treeOf v.sink }).2 = .error f)
      (other : ∀ e, f ≠ .loading e) : Turns sink treeOf w v (input :: inputs) [] v (some f)
  /-- A document that was held back cannot be passed on. -/
  | stuck {v u : Stream ρ σ} {input : Input} {inputs : List Input} {d : InputDocument} {f : Fault}
      (read : (input.read { w with tree := treeOf v.sink }).2 = .ok d)
      (processed : v.process sink (some d) = (u, .error f)) :
      Turns sink treeOf w v (input :: inputs) [] u (some (.fault f))

/-- **Each input has one turn, in order**, if the session is not ended early. -/
theorem Turns.inputs {v u : Stream ρ σ} {inputs : List Input} {turns : List Turn}
    {ending : Option Failure} (h : Turns sink treeOf w v inputs turns u ending) :
    ending = none → turns.map Turn.input = inputs := by
  induction h with
  | done => exact fun _ => rfl
  | taken _ _ _ ih => exact fun hending => congrArg (_ :: ·) (ih hending)
  | told _ _ ih => exact fun hending => congrArg (_ :: ·) (ih hending)
  | broken _ _ => exact fun hending => by cases hending
  | stuck _ _ => exact fun hending => by cases hending

/-! ## 2. Sessions -/

namespace Session

/-- **A session takes its turns**: the outcomes stand in order behind those before, and so does what is
    told about inputs. -/
theorem serve_turns {v u : Stream ρ σ} {inputs : List Input} {turns : List Turn}
    {ending : Option Failure} (h : Turns sink treeOf w v inputs turns u ending) :
    ∀ {s : Session ρ σ}, s.stream = v → ∃ next, s.serve sink treeOf w inputs = (next, ending) ∧
      next.stream = u ∧ next.outcomes = s.outcomes ++ turns.filterMap Turn.outcome? ∧
      next.inputErrors = s.inputErrors ++ turns.filterMap Turn.complaint? := by
  induction h with
  | done => exact fun {s} hs => ⟨s, rfl, hs, (List.append_nil _).symm, (List.append_nil _).symm⟩
  | taken read processed _ ih =>
      rintro s rfl
      obtain ⟨next, hnext, hstream, houtcomes, herrors⟩ := serve_taken _ read processed
      obtain ⟨last, hlast, hu, hos, hes⟩ := ih hstream
      refine ⟨last, hnext.trans hlast, hu, ?_, ?_⟩
      · rw [hos, houtcomes, List.append_assoc]
        rfl
      · rw [hes, herrors]
        rfl
  | told read _ ih =>
      rintro s rfl
      obtain ⟨next, hnext, hstream, houtcomes, herrors⟩ := serve_told sink _ read
      obtain ⟨last, hlast, hu, hos, hes⟩ := ih hstream
      refine ⟨last, hnext.trans hlast, hu, ?_, ?_⟩
      · rw [hos, houtcomes]
        rfl
      · rw [hes, herrors, List.append_assoc]
        rfl
  | broken read other =>
      rintro s rfl
      obtain ⟨next, hnext, hstream, houtcomes, herrors⟩ := serve_broken sink _ read other
      exact ⟨next, hnext, hstream, houtcomes.trans (List.append_nil _).symm,
        herrors.trans (List.append_nil _).symm⟩
  | stuck read processed =>
      rintro s rfl
      obtain ⟨next, hnext, hstream, houtcomes, herrors⟩ := serve_stuck _ read processed
      exact ⟨next, hnext, hstream, houtcomes.trans (List.append_nil _).symm,
        herrors.trans (List.append_nil _).symm⟩

end Session

variable (sink treeOf w) in
/-- Inputs have turns, by recursion over them. -/
theorem exists_turns : ∀ (inputs : List Input) (v : Stream ρ σ),
    ∃ turns u ending, Turns sink treeOf w v inputs turns u ending
  | [], v => ⟨[], v, none, .done⟩
  | input :: inputs, v => by
      cases read : (input.read { w with tree := treeOf v.sink }).2 with
      | error f =>
          cases f with
          | loading e =>
              obtain ⟨turns, u, ending, h⟩ := exists_turns inputs v
              exact ⟨_, u, ending, .told read h⟩
          | _ => exact ⟨[], v, _, .broken read fun e h => by cases h⟩
      | ok d =>
          rcases processed : v.process sink (some d) with ⟨u, f | o⟩
          · exact ⟨[], u, _, .stuck read processed⟩
          · obtain ⟨turns, t, ending, h⟩ := exists_turns inputs u
            exact ⟨_, t, ending, .taken read processed h⟩

/-! ## 3. Reading an input -/

/-- What keeps an input from being read without being an error of the loading. -/
inductive InputFault (w : World) : Input → Fault → Prop where
  /-- The file cannot be looked for. -/
  | unseen {p : Path} (h : w.tree.Overruns p) : InputFault w (.file p) (.system .nameTooLong)
  /-- The URL has no parts, or the network refuses without an answer. -/
  | url {url : String} {f : Fault} (h : UrlFault w.web url defaultTimeout f) :
      InputFault w (.url url) f

/-- **An input that is read has its own name as its source.** A file has the text that it is read as, a
    URL the text that the network answers with, and the standard input its own. -/
inductive Reads (w : World) : Input → InputDocument → Prop where
  | file {p : Path} {text : String} (h : w.tree.readText p "utf-8" = .ok text) :
      Reads w (.file p) ⟨p.text, text⟩
  | url {url body : String} {address : Address} {status : Nat}
      (hparts : Address.ofString url = .ok address) (hcomplete : address.isComplete = true)
      (hreply : w.web ⟨url, defaultTimeout⟩ = .answered status body)
      (hstatus : isErrorStatus status = false) : Reads w (.url url) ⟨url, body⟩
  | stdin : Reads w .stdin ⟨"<stdin>", w.stdin⟩

theorem read_url (w : World) (url : String) : ((Input.url url).read w).2 =
    (readModelUrl w.web url defaultTimeout).2.map fun d => ⟨d.source, d.text⟩ := rfl

/-- **Which inputs can be read.** -/
theorem read_eq_ok {input : Input} {d : InputDocument} :
    (input.read w).2 = .ok d ↔ Reads w input d := by
  cases input with
  | file p =>
      constructor
      · intro h
        obtain ⟨loaded, hloaded, rfl⟩ := except_map_eq_ok.mp h
        cases readModelFile_iff.mp hloaded with
        | loaded htext => exact .file htext
      · intro h
        cases h with
        | file htext => exact except_map_eq_ok.mpr ⟨_, readModelFile_iff.mpr (.loaded htext), rfl⟩
  | url url =>
      rw [read_url, except_map_eq_ok]
      constructor
      · rintro ⟨loaded, hloaded, rfl⟩
        obtain ⟨_, _, _, hparts, hcomplete, hreply, hstatus, rfl⟩ := readModelUrl_eq_ok.mp hloaded
        exact .url hparts hcomplete hreply hstatus
      · intro h
        cases h with
        | url hparts hcomplete hreply hstatus =>
            exact ⟨_, readModelUrl_eq_ok.mpr
              ⟨_, _, _, hparts, hcomplete, hreply, hstatus, rfl⟩, rfl⟩
  | stdin =>
      constructor
      · intro h
        cases h
        exact .stdin
      · intro h
        cases h
        rfl

/-- **What cannot be read is an error of the loading** or one of those faults. -/
theorem read_failsAs (w : World) (input : Input) : FailsAs (fun f => (∃ e, f = .loading e) ∨
    ∃ x, f = .fault x ∧ InputFault w input x) (input.read w).2 := by
  intro f h
  cases input with
  | file p =>
      cases readModelFile_iff.mp (except_map_eq_error.mp h) with
      | unseen hlong => exact .inr ⟨_, rfl, .unseen hlong⟩
      | absent _ => exact .inl ⟨_, rfl⟩
      | unreadable _ _ _ => exact .inl ⟨_, rfl⟩
  | url url =>
      rw [read_url] at h
      rcases readModelUrl_failsAs _ (except_map_eq_error.mp h) with hloading | ⟨x, rfl, hfault⟩
      · exact .inl hloading
      · exact .inr ⟨x, rfl, .url hfault⟩
  | stdin => cases h

/-- Each of those faults keeps an input from being read. -/
theorem read_of_inputFault {input : Input} {x : Fault} (h : InputFault w input x) :
    (input.read w).2 = .error (.fault x) := by
  cases h with
  | unseen hlong => exact except_map_eq_error.mpr (readModelFile_iff.mpr (.unseen hlong))
  | url h =>
      rw [read_url]
      exact except_map_eq_error.mpr (readModelUrl_fault.mpr h)

/-- Only an atomic pipeline has documents it cannot pass on. -/
theorem atomic_of_stuck {v u : Stream ρ σ} {d : InputDocument} {f : Fault}
    (h : v.process sink (some d) = (u, .error f)) : v.pipeline.config.atomic.isTrue = true := by
  cases ha : v.pipeline.config.atomic.isTrue with
  | true => rfl
  | false =>
      rw [Stream.process_direct ha] at h
      cases h

/-- Processing a document leaves the configuration as it is. -/
theorem config_process {v u : Stream ρ σ} {d : InputDocument} {o : Except Fault Outcome}
    (h : v.process sink (some d) = (u, o)) : u.pipeline.config = v.pipeline.config := by
  have hsettings := (Pipeline.process_settings sink v (some d)).1
  rw [h] at hsettings
  exact congrArg Generator.config hsettings

/-- **What ends a session early** is a fault in reading an input, or a document that an atomic pipeline
    cannot pass on. The inputs before have had their turns. -/
theorem Turns.ending {v u : Stream ρ σ} {inputs : List Input} {turns : List Turn}
    {ending : Option Failure} (h : Turns sink treeOf w v inputs turns u ending) :
    ∀ {f}, ending = some f → ∃ input rest x, inputs = turns.map Turn.input ++ input :: rest ∧
      f = .fault x ∧ (InputFault { w with tree := treeOf u.sink } input x ∨
        v.pipeline.config.atomic.isTrue = true ∧ ∃ (t : Stream ρ σ) (d : InputDocument),
          Reads { w with tree := treeOf t.sink } input d ∧ t.process sink (some d) = (u, .error x)) := by
  induction h with
  | done => exact fun h => by cases h
  | @taken v u t input inputs d o turns ending _ processed _ ih =>
      intro f hf
      obtain ⟨last, rest, x, heq, hx, hcause⟩ := ih hf
      rw [config_process processed] at hcause
      exact ⟨last, rest, x, congrArg (input :: ·) heq, hx, hcause⟩
  | @told v t input inputs e turns ending _ _ ih =>
      intro f hf
      obtain ⟨last, rest, x, heq, hx, hcause⟩ := ih hf
      exact ⟨last, rest, x, congrArg (input :: ·) heq, hx, hcause⟩
  | @broken v input inputs f read other =>
      intro f' hf
      cases hf
      rcases read_failsAs _ input f read with ⟨e, he⟩ | ⟨x, rfl, hfault⟩
      · exact absurd he (other e)
      · exact ⟨input, inputs, x, rfl, rfl, .inl hfault⟩
  | @stuck v u input inputs d f read processed =>
      intro f' hf
      cases hf
      exact ⟨input, inputs, f, rfl, rfl,
        .inr ⟨atomic_of_stuck processed, v, d, read_eq_ok.mp read, processed⟩⟩

/-! ## 4. The inputs of a command line -/

/-- The inputs a command line names: the paths its files stand for, its URL, and the standard input. -/
def namedInputs (tree : FileTree) (a : Arguments) : List Input :=
  (a.files.flatMap fun file => expansion tree (Path.ofString file)).map .file ++
    ((given? a.url).map Input.url).toList ++ if a.stdin then [.stdin] else []

/-- **These are all inputs**, if all files can be looked at. -/
theorem inputsOf_eq_ok {tree : FileTree} {a : Arguments} {inputs : List Input} :
    inputsOf tree a = .ok inputs ↔
      (∀ file ∈ a.files, ¬ tree.Overruns (Path.ofString file)) ∧ inputs = namedInputs tree a := by
  unfold inputsOf
  rw [except_bind_eq_ok]
  constructor
  · rintro ⟨paths, hpaths, h⟩
    obtain ⟨hall, rfl⟩ := expandPaths_eq_ok.mp hpaths
    exact ⟨hall, (Except.ok.inj h).symm⟩
  · rintro ⟨hall, rfl⟩
    exact ⟨_, expandPaths_eq_ok.mpr ⟨hall, rfl⟩, rfl⟩

theorem inputsOf_eq_error {tree : FileTree} {a : Arguments} {f : Fault} :
    inputsOf tree a = .error f ↔
      f = .system .nameTooLong ∧ ∃ file ∈ a.files, tree.Overruns (Path.ofString file) := by
  unfold inputsOf
  rw [except_bind_eq_error, expandPaths_eq_error]
  constructor
  · rintro (h | ⟨_, _, h⟩)
    · exact h
    · cases h
  · exact .inl

/-! ## 5. Main result -/

/-- **Every input of a command line becomes a document or is told about, in order**: the paths its files
    stand for, its URL, the standard input. There are no inputs if a file cannot be looked at. The session
    ends early only at an input whose file cannot be looked for, whose URL has no parts or is refused
    without an answer, or whose files an atomic pipeline cannot pass on; else all inputs have their turns.
    A URL without brackets and characters that stand for separators is loaded, or the reason is told, or
    the network refuses. -/
theorem serve_outcome (sink : Sink σ) (treeOf : σ → FileTree) (w : World) (a : Arguments)
    (s : Session ρ σ) :
    (∀ f, inputsOf w.tree a = .error f ↔
      f = .system .nameTooLong ∧ ∃ file ∈ a.files, w.tree.Overruns (Path.ofString file)) ∧
    (∀ inputs, inputsOf w.tree a = .ok inputs → inputs = namedInputs w.tree a ∧
      ∃ turns u ending next, Turns sink treeOf w s.stream inputs turns u ending ∧
        s.serve sink treeOf w inputs = (next, ending) ∧
        next.outcomes = s.outcomes ++ turns.filterMap Turn.outcome? ∧
        next.inputErrors = s.inputErrors ++ turns.filterMap Turn.complaint? ∧
        (ending = none → turns.map Turn.input = inputs) ∧
        ∀ f, ending = some f → ∃ input rest x, inputs = turns.map Turn.input ++ input :: rest ∧
          f = .fault x ∧ (InputFault { w with tree := treeOf u.sink } input x ∨
            s.stream.pipeline.config.atomic.isTrue = true ∧ ∃ (t : Stream ρ σ) (d : InputDocument),
              Reads { w with tree := treeOf t.sink } input d ∧
                t.process sink (some d) = (u, .error x))) ∧
    (∀ (here : World) input d, (input.read here).2 = .ok d ↔ Reads here input d) ∧
    (∀ (here : World) input f, (input.read here).2 = .error f →
      (∃ e, f = .loading e) ∨ ∃ x, f = .fault x ∧ InputFault here input x) ∧
    (∀ (here : World) input x, InputFault here input x → (input.read here).2 = .error (.fault x)) ∧
    ∀ url timeout, (∀ c ∈ url.toList, c ≠ '[' ∧ c ≠ ']' ∧ c.toNat ∉ separatorLookalikes) →
      w.web ⟨url, timeout⟩ ≠ .refused →
        (∃ text, (readModelUrl w.web url timeout).2 = .ok ⟨url, text⟩) ∨
          ∃ e, (readModelUrl w.web url timeout).2 = .error (.loading e) := by
  refine ⟨fun f => inputsOf_eq_error, fun inputs h => ⟨(inputsOf_eq_ok.mp h).2, ?_⟩,
    fun here input d => read_eq_ok, fun here input f h => read_failsAs here input f h,
    fun here input x h => read_of_inputFault h, fun url timeout hplain hanswer => ?_⟩
  · obtain ⟨turns, u, ending, hturns⟩ := exists_turns sink treeOf w inputs s.stream
    obtain ⟨next, hserve, _, houtcomes, herrors⟩ := Session.serve_turns hturns rfl
    exact ⟨turns, u, ending, next, hturns, hserve, houtcomes, herrors, hturns.inputs,
      fun f hf => hturns.ending hf⟩
  · obtain ⟨address, haddress⟩ := Address.exists_ofString hplain
    cases hread : (readModelUrl w.web url timeout).2 with
    | ok d =>
        obtain ⟨_, _, body, _, _, _, _, rfl⟩ := readModelUrl_eq_ok.mp hread
        exact .inl ⟨body, rfl⟩
    | error f =>
        rcases readModelUrl_failsAs f hread with ⟨e, rfl⟩ | ⟨x, rfl, hfault⟩
        · exact .inr ⟨e, rfl⟩
        · cases hfault with
          | address h => cases haddress.symm.trans h
          | refused _ _ hweb => exact absurd hweb hanswer

/-- A URL with half a pair of brackets has no parts, and that is not told as an error of the loading. -/
theorem readModelUrl_openBracket :
    readModelUrl (fun _ => .answered 200 "aggregates: {}") "http://[" defaultTimeout =
      ([], .error (.fault .badValue)) := by
  have hparts : Address.ofString "http://[" = .error .badValue := by decide +kernel
  unfold readModelUrl
  rw [hparts]

/-- A pipeline of which every template is empty. -/
def blankPipeline : Pipeline Unit := ⟨default, fun e _ _ => (e, .ok ""), ()⟩

/-- No files, a standard input, and no network. -/
def bareWorld : World := ⟨⟨[], []⟩, "aggregates: {}", fun _ => .unreachable⟩

/-- A file and the standard input. -/
def fileAndStdin : Arguments := { (default : Arguments) with files := ["x.yaml"], stdin := true }

theorem serve_outcome_bareWorld : ∃ next ending,
    (Session.start blankPipeline []).serve memorySink (fun _ => ⟨[], []⟩) bareWorld
      [.file ⟨.relative, ["x.yaml"]⟩, .stdin] = (next, ending) ∧
    ∃ others, next.inputErrors = ("x.yaml", "File not found: x.yaml") :: others := by
  have hinputs : inputsOf bareWorld.tree fileAndStdin =
      .ok [.file ⟨.relative, ["x.yaml"]⟩, .stdin] := rfl
  obtain ⟨_, hserve, _⟩ := serve_outcome memorySink (fun _ => ⟨[], []⟩) bareWorld fileAndStdin
    (.start blankPipeline [])
  obtain ⟨_, turns, u, ending, next, hturns, hserve, _, herrors, _⟩ := hserve _ hinputs
  refine ⟨next, ending, hserve, ?_⟩
  cases hturns with
  | taken read _ _ => cases read
  | told read _ =>
      cases read
      exact ⟨_, herrors⟩
  | broken read other =>
      cases read
      exact absurd rfl (other _)
  | stuck read _ => cases read

end DomainGen.Command
