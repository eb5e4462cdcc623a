import DomainGen.Proofs.Command.Agreement
import DomainGen.Proofs.Command.ExitCode
import DomainGen.Proofs.Sink.Footprint
import DomainGen.Proofs.Generation.Agreement

/-!
# Dry runs

A dry run keeps in memory what a real run writes. The two can differ only through the file tree: the
folder refuses a file, or a file is written where an input is read later on.

* `Arguments.setUp` : what happens before there is a sink, in both runs alike;
* `Record` : what a run has done, with the files its sink has taken under watch;
* `InputsUntouched`, `InputsApart` : inputs that no file gets in the way of, and inputs that have nothing
  to do with the output folder;
* `dryRun_faithful` : **a dry run changes nothing, and tells what the real run does** if nothing is
  refused and the inputs are untouched; `dryRun_misled` : a key that leads out of the output folder can
  touch an input.
-/

namespace DomainGen.Command

/-! ## 1. Both kinds of run -/

/-- The same command line as a dry run. -/
def Arguments.dry (a : Arguments) : Arguments := { a with dryRun := true }

/-- The same command line as a real run. -/
def Arguments.real (a : Arguments) : Arguments := { a with dryRun := false }

/-- What happens before there is a sink: the pipeline and the lines shown so far, or the result if it ends
    there. -/
def Arguments.setUp (w : World) (a : Arguments) : Except Result (Pipeline Engine × List String) :=
  if a.listTemplateSets then .error ⟨0, setsScreen, w.tree, []⟩
  else if !a.namesInput then
    .error (endWith [] w.tree [] "✗ Input source required (FILE, --url, or --stdin)")
  else match a.configuration w.tree with
    | .error f => .error (endWith [] w.tree [] (failureText true f))
    | .ok c => match warningsOf a c with
      | .error f => .error (endWith [] w.tree [] (failureText false (.fault f)))
      | .ok screen => match Pipeline.ofConfig w.tree c with
        | .error f => .error (endWith screen w.tree [] (failureText false f))
        | .ok p => .ok (p, screen)

/-- A command is set up and then runs its pipeline. -/
theorem runCommand_eq (w : World) (a : Arguments) : runCommand w a = match a.setUp w with
    | .error r => r
    | .ok (p, screen) => runPipeline w a p screen := by
  unfold runCommand Arguments.setUp
  cases a.listTemplateSets with
  | true => rfl
  | false =>
      cases a.namesInput with
      | false => rfl
      | true =>
          simp only [Bool.not_true, Bool.false_eq_true, if_false]
          cases a.configuration w.tree with
          | error f => rfl
          | ok c =>
              dsimp only
              cases warningsOf a c with
              | error f => rfl
              | ok screen =>
                  dsimp only
                  cases Pipeline.ofConfig w.tree c <;> rfl

/-- What ends before there is a sink writes nothing. -/
theorem tree_setUp {w : World} {a : Arguments} {r : Result} (h : a.setUp w = .error r) :
    r.tree = w.tree := by
  unfold Arguments.setUp at h
  split at h
  · cases h
    rfl
  · split at h
    · cases h
      rfl
    · split at h
      · cases h
        rfl
      · split at h
        · cases h
          rfl
        · split at h
          · cases h
            rfl
          · cases h

/-! ## 2. Records -/

/-- What a run has done. -/
structure Record where
  /-- The outcomes of its documents. -/
  outcomes : List Outcome
  /-- The inputs it could not read, each with the reason. -/
  inputErrors : List (String × String)
  /-- The files its sink took. -/
  files : List GeneratedFile
  /-- Did its sink refuse a file? -/
  refused : Bool

/-- Nothing was done. -/
def Record.empty : Record := ⟨[], [], [], false⟩

/-- What a session over a sink under watch has done. -/
def Session.record {ρ σ : Type} (s : Session ρ (Watched σ)) : Record :=
  ⟨s.outcomes, s.inputErrors, s.stream.sink.taken, s.stream.sink.refused⟩

/-- The session of a pipeline over some inputs, with its sink under watch. -/
def watchedSession {ρ σ : Type} (sink : Sink σ) (treeOf : σ → FileTree) (start : σ) (w : World)
    (p : Pipeline ρ) (screen : List String) (inputs : List Input) :
    Session ρ (Watched σ) × Option Failure :=
  Session.serve (watchingSink sink) (fun u => treeOf u.target) w
    { Session.start p (Watched.start start) with screen } inputs

/-- The session of a dry run. -/
def drySession {ρ : Type} (w : World) (p : Pipeline ρ) (screen : List String) (inputs : List Input) :
    Session ρ (Watched (List GeneratedFile)) × Option Failure :=
  watchedSession memorySink (fun _ => w.tree) [] w p screen inputs

/-- The session of a real run below a folder. -/
def realSession {ρ : Type} (root : Path) (w : World) (p : Pipeline ρ) (screen : List String)
    (inputs : List Input) : Session ρ (Watched Directory) × Option Failure :=
  watchedSession (directorySink root defaultEncoding) Directory.tree ⟨w.tree, []⟩ w p screen inputs

/-- What a run over its inputs does. -/
def recordInputs {ρ σ : Type} (w : World) (a : Arguments)
    (session : List Input → Session ρ (Watched σ) × Option Failure) : Record :=
  match inputsOf w.tree a with
  | .error _ => .empty
  | .ok inputs => (session inputs).1.record

/-- The folder files are written to, as a path. -/
def Arguments.root (a : Arguments) : Path := Path.ofString a.output

/-- What a command line does. -/
def Arguments.record (w : World) (a : Arguments) : Record :=
  match a.setUp w with
  | .error _ => .empty
  | .ok (p, screen) =>
    if a.dryRun then recordInputs w a (drySession w p screen)
    else if a.cleared.contains .output then .empty
    else recordInputs w a (realSession a.root w p screen)

/-- **A run is the same with its sink under watch**: a record tells of the run itself. -/
theorem runInputs_watched {ρ σ : Type} (sink : Sink σ) (treeOf : σ → FileTree)
    (destination : Destination) (start : σ) (w : World) (a : Arguments) (p : Pipeline ρ)
    (screen : List String) :
    runInputs (watchingSink sink) (fun u => treeOf u.target) destination (Watched.start start) w a p
      screen = runInputs sink treeOf destination start w a p screen :=
  runInputs_agree (.refl p) (Sink.watching_agree sink) (fun h => congrArg treeOf h) rfl destination w a
    screen

/-! ## 3. Inputs -/

/-- No input is a file that is touched when these files are written. -/
def InputsUntouched (w : World) (a : Arguments) (files : List GeneratedFile) : Prop :=
  ∀ inputs, inputsOf w.tree a = .ok inputs → ∀ p, .file p ∈ inputs →
    Directory.Untouched a.root w.tree files p

/-- No input has to do with the output folder. -/
def InputsApart (w : World) (a : Arguments) : Prop :=
  ∀ inputs, inputsOf w.tree a = .ok inputs → ∀ p, .file p ∈ inputs →
    Directory.Apart a.root w.tree p

/-- What is not in a file is read without looking at the tree, and a file reads the same in trees that
    are the same along its path. -/
theorem Input.read_congr {w : World} {t : FileTree} : ∀ {input : Input},
    (∀ {p}, input = .file p → FileTree.SameAlong p w.tree t) →
      input.read { w with tree := t } = input.read w
  | .file p, h => by
      unfold Input.read
      dsimp only
      rw [FileTree.readModelFile_congr (h rfl)]
  | .url _, _ => rfl
  | .stdin, _ => rfl

section SetUp

variable {w : World} {a : Arguments} {r : Result} {p : Pipeline Engine} {screen : List String}

theorem runCommand_ended (h : a.setUp w = .error r) : runCommand w a = r := by
  rw [runCommand_eq, h]

theorem record_ended (h : a.setUp w = .error r) : a.record w = .empty := by
  unfold Arguments.record
  rw [h]

theorem runCommand_dry (h : a.setUp w = .ok (p, screen)) : runCommand w a.dry =
    runInputs memorySink (fun _ => w.tree) .dryRun [] w a.dry p screen := by
  rw [runCommand_eq, show a.dry.setUp w = .ok (p, screen) from h]
  rfl

theorem record_dry (h : a.setUp w = .ok (p, screen)) :
    a.dry.record w = recordInputs w a (drySession w p screen) := by
  unfold Arguments.record
  rw [show a.dry.setUp w = .ok (p, screen) from h]
  rfl

variable (hout : a.cleared.contains .output = false)
include hout

theorem runCommand_real (h : a.setUp w = .ok (p, screen)) : runCommand w a.real =
    runInputs (directorySink a.root defaultEncoding) Directory.tree (.folder a.root.text)
      ⟨w.tree, []⟩ w a.real p screen := by
  have hgiven : a.real.cleared.contains .output = false := hout
  rw [runCommand_eq, show a.real.setUp w = .ok (p, screen) from h]
  dsimp only
  unfold runPipeline
  rw [hgiven]
  rfl

theorem record_real (h : a.setUp w = .ok (p, screen)) :
    a.real.record w = recordInputs w a (realSession a.root w p screen) := by
  have hgiven : a.real.cleared.contains .output = false := hout
  unfold Arguments.record
  rw [show a.real.setUp w = .ok (p, screen) from h]
  dsimp only
  rw [hgiven]
  rfl

end SetUp

/-- Nothing is written at the end of a session. -/
theorem Session.sink_finish {ρ σ : Type} (s : Session ρ σ) (listFiles : Bool)
    (destination : Destination) : (s.finish listFiles destination).stream.sink = s.stream.sink := by
  unfold finish
  dsimp only
  split
  · rfl
  · cases listFiles <;> rfl

/-! ## 4. Main result -/

section Faithful

variable {ρ σ τ : Type} {w : World} {a : Arguments} {p : Pipeline ρ} {screen : List String}
  {inputs : List Input}

/-- **A session over the output folder does what one in memory does**, if the folder refuses nothing and
    the inputs are untouched by the files of the one in memory. -/
theorem realSession_related {root : Path}
    (hrefused : (realSession root w p screen inputs).1.stream.sink.refused = false)
    (huntouched : ∀ q, .file q ∈ inputs →
      Directory.Untouched root w.tree (drySession w p screen inputs).1.stream.sink.taken q) :
    (drySession w p screen inputs).1.Related (· = ·)
        (Sink.TakeAlike (directorySink root defaultEncoding) ⟨w.tree, []⟩)
        (realSession root w p screen inputs).1 ∧
      (drySession w p screen inputs).2 = (realSession root w p screen inputs).2 := by
  have hagree := Sink.watching_agreeUntil Sink.memorySink_acceptsAll
    (directorySink root defaultEncoding) ⟨w.tree, []⟩
    (drySession w p screen inputs).1.stream.sink.taken
  -- as long as its files are the first ones of the whole session, every input is untouched by them
  have hread : ∀ {u : Watched (List GeneratedFile)} {v : Watched Directory},
      Sink.TakeAlike (directorySink root defaultEncoding) ⟨w.tree, []⟩ u v →
      (v.refused = true ∨ ¬ u.taken <+: (drySession w p screen inputs).1.stream.sink.taken) ∨
      ∀ input ∈ inputs, input.read { w with tree := w.tree } =
        input.read { w with tree := v.target.tree } := by
    intro u v h
    by_cases hprefix : u.taken <+: (drySession w p screen inputs).1.stream.sink.taken
    · refine Or.inr fun input hinput => (Input.read_congr fun {q} hq => ?_).symm
      subst hq
      exact Directory.sameAlong_of_takes h.takes ((huntouched q hinput).of_subset hprefix.subset)
    · exact Or.inl (Or.inr hprefix)
  have hbegin : Session.Related (· = ·)
      (Sink.TakeAlike (directorySink root defaultEncoding) ⟨w.tree, []⟩)
      { Session.start p (Watched.start ([] : List GeneratedFile)) with screen }
      { Session.start p (Watched.start (⟨w.tree, []⟩ : Directory)) with screen } :=
    ⟨⟨.refl p, ⟨rfl, ⟨rfl, rfl⟩, rfl⟩, rfl⟩, rfl, rfl, rfl, rfl⟩
  refine (Session.serve_agreeUntil hagree hread hbegin).resolve_left ?_
  rintro (h | h)
  · exact Bool.false_ne_true (hrefused.symm.trans h)
  · exact h (List.prefix_refl _)

/-- How a run over its inputs ends: with the exit code of its session, and the tree of its sink. -/
theorem runInputs_served {sink : Sink σ} {treeOf : σ → FileTree} {start : σ} {s : Session ρ (Watched σ)}
    {f : Option Failure} (hinputs : inputsOf w.tree a = .ok inputs)
    (hs : watchedSession sink treeOf start w p screen inputs = (s, f)) (destination : Destination) :
    (runInputs sink treeOf destination start w a p screen).exit =
        (if f.isSome then 1 else s.exitCode) ∧
      (runInputs sink treeOf destination start w a p screen).tree = treeOf s.stream.sink.target := by
  rw [← runInputs_watched]
  unfold watchedSession at hs
  unfold runInputs
  rw [hinputs]
  dsimp only
  rw [hs]
  cases f with
  | some f => exact ⟨rfl, rfl⟩
  | none => exact ⟨s.exitCode_finish _ _, congrArg (fun u => treeOf u.target) (s.sink_finish _ _)⟩

/-- A run that cannot tell its inputs ends without writing anything. -/
theorem runInputs_unnamed {sink : Sink σ} {treeOf : σ → FileTree} {start : σ} {f : Fault}
    (hinputs : inputsOf w.tree a = .error f) (destination : Destination) :
    (runInputs sink treeOf destination start w a p screen).exit = 1 ∧
      (runInputs sink treeOf destination start w a p screen).tree = treeOf start := by
  unfold runInputs
  rw [hinputs]
  exact ⟨rfl, rfl⟩

/-- A dry run changes nothing. -/
theorem tree_dry (w : World) (a : Arguments) : (runCommand w a.dry).tree = w.tree := by
  rw [runCommand_eq]
  rcases h : a.dry.setUp w with r | ⟨p, screen⟩
  · exact tree_setUp h
  · show (runInputs memorySink (fun _ => w.tree) .dryRun [] w a.dry p screen).tree = w.tree
    cases hi : inputsOf w.tree a.dry with
    | error f => exact (runInputs_unnamed hi _).2
    | ok inputs => exact (runInputs_served hi rfl _).2

theorem record_eq_of_related {S : Watched σ → Watched τ → Prop} {s : Session ρ (Watched σ)}
    {t : Session ρ (Watched τ)} (h : s.Related (· = ·) S t)
    (hsink : ∀ {u v}, S u v → v.taken = u.taken ∧ v.refused = u.refused) : t.record = s.record := by
  obtain ⟨htaken, hrefused⟩ := hsink h.stream.sink
  unfold Session.record
  rw [h.outcomes_eq, h.inputErrors_eq, htaken, hrefused]

/-- What is said of a run over its inputs, from what is said of its session. -/
theorem faithful_of_sessions (hi : inputsOf w.tree a = .ok inputs)
    (hrefused : (realSession a.root w p screen inputs).1.stream.sink.refused = false)
    (huntouched : ∀ q, .file q ∈ inputs →
      Directory.Untouched a.root w.tree (drySession w p screen inputs).1.stream.sink.taken q) :
    (runInputs (directorySink a.root defaultEncoding) Directory.tree (.folder a.root.text)
        ⟨w.tree, []⟩ w a.real p screen).exit =
      (runInputs memorySink (fun _ => w.tree) .dryRun [] w a.dry p screen).exit ∧
    (realSession a.root w p screen inputs).1.record = (drySession w p screen inputs).1.record ∧
    Directory.Leaves a.root defaultEncoding (drySession w p screen inputs).1.record.files w.tree
      (runInputs (directorySink a.root defaultEncoding) Directory.tree (.folder a.root.text)
        ⟨w.tree, []⟩ w a.real p screen).tree := by
  obtain ⟨hrelated, hfailed⟩ := realSession_related hrefused huntouched
  have hrecord := record_eq_of_related hrelated fun h =>
    ⟨h.taken_eq, h.refused_eq.2.trans h.refused_eq.1.symm⟩
  rcases hd : drySession w p screen inputs with ⟨s, f⟩
  rcases hr : realSession a.root w p screen inputs with ⟨t, f'⟩
  rw [hd, hr] at hrelated hfailed hrecord
  obtain rfl : f = f' := hfailed
  obtain ⟨hdryExit, _⟩ := runInputs_served (a := a.dry) hi hd .dryRun
  obtain ⟨hrealExit, hrealTree⟩ := runInputs_served (a := a.real) hi hr (.folder a.root.text)
  refine ⟨?_, hrecord, ?_⟩
  · rw [hrealExit, hdryExit, hrelated.exitCode_eq]
  · rw [hrealTree]
    exact Directory.leaves_of_takes hrelated.stream.sink.takes

/-- **A run that is set up is as faithful as its session is.** -/
theorem faithful_of_setUp {p : Pipeline Engine} (h : a.setUp w = .ok (p, screen))
    (hout : a.cleared.contains .output = false) (hrefused : (a.real.record w).refused = false)
    (huntouched : InputsUntouched w a (a.dry.record w).files) :
    (runCommand w a.real).exit = (runCommand w a.dry).exit ∧
    a.real.record w = a.dry.record w ∧
    Directory.Leaves a.root defaultEncoding (a.dry.record w).files w.tree
      (runCommand w a.real).tree := by
  rw [runCommand_dry h, runCommand_real hout h]
  rw [record_dry h] at huntouched ⊢
  rw [record_real hout h] at hrefused ⊢
  unfold recordInputs at hrefused huntouched ⊢
  cases hi : inputsOf w.tree a with
  | error f =>
      refine ⟨?_, rfl, ?_⟩
      · exact (runInputs_unnamed (a := a.real) hi _).1.trans
          (runInputs_unnamed (a := a.dry) hi _).1.symm
      · rw [(runInputs_unnamed (a := a.real) hi _).2]
        exact .none w.tree
  | ok inputs =>
      rw [hi] at hrefused huntouched
      exact faithful_of_sessions hi hrefused (huntouched inputs hi)

end Faithful

/-- **A dry run is faithful.** It leaves the file tree as it is. If the folder of the real run refuses no
    file and the inputs are untouched by the files of the dry run, the real run ends with the same exit
    code, does the same with the same documents and writes the same files in the same order: it changes
    the places of these files and no others, and each is there unless a later one has its place. The
    inputs are untouched if they have nothing to do with the output folder and all paths descend; and then
    all places are below that folder. -/
theorem dryRun_faithful (w : World) (a : Arguments) :
    (runCommand w a.dry).tree = w.tree ∧
    (a.cleared.contains .output = false → (a.real.record w).refused = false →
      InputsUntouched w a (a.dry.record w).files →
        (runCommand w a.real).exit = (runCommand w a.dry).exit ∧
        a.real.record w = a.dry.record w ∧
        Directory.Leaves a.root defaultEncoding (a.dry.record w).files w.tree
          (runCommand w a.real).tree) ∧
    (InputsApart w a → (∀ f ∈ (a.dry.record w).files, (Path.ofString f.path).Descends) →
      InputsUntouched w a (a.dry.record w).files ∧
      ∀ f ∈ (a.dry.record w).files,
        w.tree.target a.root <+: Directory.placeOf a.root w.tree f.path) := by
  refine ⟨tree_dry w a, fun hout hrefused huntouched => ?_, fun hapart hfiles => ⟨?_, ?_⟩⟩
  · rcases h : a.setUp w with r | ⟨p, screen⟩
    · rw [runCommand_ended (a := a.dry) h, runCommand_ended (a := a.real) h, record_ended (a := a.dry) h,
        record_ended (a := a.real) h, tree_setUp h]
      exact ⟨rfl, rfl, .none w.tree⟩
    · exact faithful_of_setUp h hout hrefused huntouched
  · exact fun inputs hi q hq => Directory.untouched_of_apart hfiles (hapart inputs hi q hq)
  · exact fun f hf => FileTree.target_under (Directory.under_append (hfiles f hf))

/-! ## 5. Two models -/

/-- Two models beside a folder with templates; the first one has a text that is given. -/
def twoModels (first : String) : World where
  tree := { templateTree with
    nodes := templateTree.nodes ++ [(["m.yaml"], .file first.toUTF8.toList),
      (["second-aggregate.yaml"], .file "aggregates: {}".toUTF8.toList)] }
  stdin := ""
  web := fun _ => .unreachable

/-- Both models with these templates, into a folder next to them. -/
def bothModels : Arguments :=
  { Arguments.standard with
    files := ["m.yaml", "second-aggregate.yaml"], output := "out", templateDir := some "t",
    extension := some "yaml" }

/-- The models lie outside of the output folder. -/
theorem bothModels_apart (first : String) : InputsApart (twoModels first) bothModels := by
  intro inputs hi q hq
  have hinputs : inputsOf (twoModels first).tree bothModels =
      .ok [.file (Path.ofString "m.yaml"), .file (Path.ofString "second-aggregate.yaml")] := rfl
  obtain rfl := Except.ok.inj (hinputs.symm.trans hi)
  -- where a path leads depends on the folder it starts from only
  have hbelow : ∀ file ∈ bothModels.files, ¬ (FileTree.mk [] []).target bothModels.root <+:
      (FileTree.mk [] []).target (Path.ofString file) := by decide +kernel
  rcases List.mem_pair.mp hq with heq | heq <;> obtain rfl := Input.file.inj heq
  · exact (Directory.apart_iff_of_isFile rfl).mpr (hbelow "m.yaml" List.mem_cons_self)
  · exact (Directory.apart_iff_of_isFile rfl).mpr
      (hbelow "second-aggregate.yaml" (List.mem_cons_of_mem _ List.mem_cons_self))

/-- A first model with an aggregate. -/
def orderModels : World := twoModels "aggregates: {order: {}}"

/-- Two models that write one index: the real run does what the dry run tells, and the second index is
    there. -/
theorem dryRun_faithful_order :
    (runCommand orderModels bothModels.dry).exit = 0 ∧
    (runCommand orderModels bothModels.dry).tree = orderModels.tree ∧
    (runCommand orderModels bothModels.real).exit = 0 ∧
    bothModels.real.record orderModels = bothModels.dry.record orderModels ∧
    (bothModels.dry.record orderModels).files.map (·.path) =
      ["aggregates/order-aggregate.yaml", "index.yaml", "index.yaml"] ∧
    ∃ bytes, FileTree.Encoded defaultEncoding "index" bytes ∧
      (runCommand orderModels bothModels.real).tree.node? ["out", "index.yaml"] =
        some (.file bytes) := by
  have hfiles : (bothModels.dry.record orderModels).files =
      [⟨"aggregates/order-aggregate.yaml", "aggregate", some "OrderAggregate"⟩,
        ⟨"index.yaml", "index", none⟩, ⟨"index.yaml", "index", none⟩] := by decide +kernel
  have hexit : (runCommand orderModels bothModels.dry).exit = 0 := by decide +kernel
  have hrefused : (bothModels.real.record orderModels).refused = false := by decide +kernel
  obtain ⟨htree, hreal, hbelow⟩ := dryRun_faithful orderModels bothModels
  have hdescends : ∀ f ∈ (bothModels.dry.record orderModels).files,
      (Path.ofString f.path).Descends := by
    rw [hfiles]
    decide +kernel
  obtain ⟨huntouched, _⟩ := hbelow (bothModels_apart _) hdescends
  obtain ⟨hsame, hrecord, hleaves⟩ := hreal rfl hrefused huntouched
  refine ⟨hexit, htree, hsame.trans hexit, hrecord, ?_, ?_⟩
  · rw [hfiles]
    rfl
  · rw [hfiles] at hleaves
    exact hleaves.last [_, _] _ [] rfl fun ⟨_, hf, _⟩ => by cases hf

/-- A first model with a key that leads out of the output folder, to where the second model is. -/
def strayModels : World := twoModels "aggregates: {../../second: {}}"

/-- **A key that leads out of the output folder can mislead a dry run.** No input lies in that folder and
    no file is refused; but the file of the first model replaces the second model, which the dry run
    generates and the real run cannot. -/
theorem dryRun_misled :
    InputsApart strayModels bothModels ∧
    (bothModels.real.record strayModels).refused = false ∧
    (runCommand strayModels bothModels.dry).exit = 0 ∧
    (runCommand strayModels bothModels.real).exit = 1 ∧
    (bothModels.dry.record strayModels).outcomes.map (·.status) = [.generated, .generated] ∧
    (bothModels.real.record strayModels).outcomes.map (·.status) = [.generated, .failed] ∧
    (runCommand strayModels bothModels.real).tree.node? ["second-aggregate.yaml"] =
      some (.file "aggregate".toUTF8.toList) := by
  have hdry : ((runCommand strayModels bothModels.dry).exit,
      (bothModels.dry.record strayModels).outcomes.map (·.status)) =
        (0, [.generated, .generated]) := by decide +kernel
  have hreal : ((runCommand strayModels bothModels.real).exit,
      (runCommand strayModels bothModels.real).tree.node? ["second-aggregate.yaml"]) =
        (1, some (.file "aggregate".toUTF8.toList)) := by decide +kernel
  have hrecord : ((bothModels.real.record strayModels).refused,
      (bothModels.real.record strayModels).outcomes.map (·.status)) =
        (false, [.generated, .failed]) := by decide +kernel
  rw [Prod.mk.injEq] at hdry hreal hrecord
  exact ⟨bothModels_apart _, hrecord.1, hdry.1, hreal.1, hdry.2, hrecord.2, hreal.2⟩

end DomainGen.Command
