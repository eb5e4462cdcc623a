import DomainGen.Proofs.Generation.Collision
import DomainGen.Proofs.Generation.Completeness

/-!
# Walks that end early

A walk fails exactly if one of the steps of its plan does, and then with the failure of the first
such step. The sink has the files of the steps before that one and no others.

* `outcome_error_iff`, `kept_of_failed` : where a failure comes from and what was handed over then;
* `outcome_error_iff_firstRepeat` : if everything can be rendered and the sink refuses nothing, only
  a path that occurs twice ends a walk, and the first repetition is reported;
* `outcome_ne_registry` : a walk itself never fails in its registry;
* `generate_interrupted` : all of it together.
-/

namespace DomainGen

variable {ρ σ : Type}

/-! ## 1. The first step that fails -/

section Failing

variable {render : Renderer ρ} {sink : Sink σ} {m : Model}

theorem outcome_eq (g : Generator) (h : m.Fresh) (e : ρ) (s : σ) :
    (g.generate render sink m e s).outcome =
      Progress.outcome m (takeSteps render sink (.start e s) (g.plan m)) := by
  rw [generate_eq_takeSteps g render sink h]

theorem outcome_error {p : Progress ρ σ × Option Failure} {problem : Failure} :
    Progress.outcome m p = .error problem ↔ p.2 = some problem := by
  rcases p with ⟨q, _ | failed⟩ <;> constructor <;> intro h <;> cases h <;> rfl

/-- **Generating fails exactly if a step fails after all steps before it were taken**, and then with
    the failure of that step. -/
theorem outcome_error_iff (g : Generator) (h : m.Fresh) (e : ρ) (s : σ) (problem : Failure) :
    (g.generate render sink m e s).outcome = .error problem ↔
      ∃ done st rest p q, g.plan m = done ++ st :: rest ∧
        takeSteps render sink (.start e s) done = (p, none) ∧
        takeStep render sink p st = (q, some problem) := by
  rw [outcome_eq g h, outcome_error]
  constructor
  · intro hp
    rcases hq : takeSteps render sink (.start e s) (g.plan m) with ⟨q, o⟩
    rw [hq] at hp
    obtain rfl : o = some problem := hp
    obtain ⟨done, st, rest, p, hplan, hdone, hst⟩ := takeSteps_failed hq
    exact ⟨done, st, rest, p, q, hplan, hdone, hst⟩
  · rintro ⟨done, st, rest, p, q, hplan, hdone, hst⟩
    rw [hplan, takeSteps_of_failed hdone hst]

/-- The step that fails is a planned file, or the indexes of kinds have no template. -/
theorem failing_step {g : Generator} {done rest : List PlanStep} {st : PlanStep}
    {p q : Progress ρ σ} {problem : Failure} (hplan : g.plan m = done ++ st :: rest)
    (hst : takeStep render sink p st = (q, some problem)) :
    (∃ f ∈ g.plannedFiles m, st = .file f) ∨
      g.config.templateFor subModuleRole = .error problem := by
  have hmem : st ∈ g.plan m := hplan ▸ List.mem_append_right done List.mem_cons_self
  rcases Generator.mem_plan hmem with hfile | rfl
  · exact Or.inl hfile
  · generalize g.config.templateFor subModuleRole = template at hst
    cases stepResult_of_eq hst with
    | missing => exact Or.inr rfl

/-- **The sink has the files of the steps before the failure**, and these are their renderings. -/
theorem kept_of_failed {kept : σ → List GeneratedFile} (hk : sink.Keeps kept) (g : Generator)
    (h : m.Fresh) {e : ρ} {s : σ} {done rest : List PlanStep} {st : PlanStep}
    {p q : Progress ρ σ} {problem : Failure} (hplan : g.plan m = done ++ st :: rest)
    (hdone : takeSteps render sink (.start e s) done = (p, none))
    (hst : takeStep render sink p st = (q, some problem)) :
    kept (g.generate render sink m e s).sink = kept s ++ p.files ∧
      renderSteps render e done = .ok p.placed := by
  constructor
  · have hq : takeSteps render sink (.start e s) (done ++ st :: rest) = (q, some problem) :=
      takeSteps_of_failed hdone hst
    rw [generate_eq_takeSteps g render sink h, hplan, hq]
    have hkept := takeSteps_kept hk hq (List.append_nil _).symm
    unfold Progress.files at hkept
    rw [placed_of_failed hst] at hkept
    exact hkept
  · obtain ⟨placed, hr, hp⟩ := takeSteps_rendered hdone
    rw [hp]
    exact hr

/-! ## 2. Collisions -/

/-- Nothing but a collision can end a walk whose files can all be rendered, and it ends it exactly
    if a path occurs twice. -/
theorem outcome_error_iff_firstRepeat (ha : sink.AcceptsAll) (g : Generator) (h : m.Fresh) {e : ρ}
    {placed : List (Item × GeneratedFile)} (hr : renderSteps render e (g.plan m) = .ok placed)
    (s : σ) (problem : Failure) :
    (g.generate render sink m e s).outcome = .error problem ↔
      ∃ c, problem = .collision c ∧ FirstRepeat placed c := by
  have hcollision : ∀ c, FirstRepeat placed c →
      (g.generate render sink m e s).outcome = .error (.collision c) := by
    intro c hc
    obtain ⟨q, hq⟩ := takeSteps_collision (p := .start e s) ha hr List.nodup_nil hc
    rw [outcome_eq g h, outcome_error, hq]
  constructor
  · intro hp
    by_cases hn : (pathsOf placed).Nodup
    · obtain ⟨q, hq, _⟩ := takeSteps_complete (p := .start e s) ha hr hn
      rw [outcome_eq g h, outcome_error, hq] at hp
      cases hp
    · obtain ⟨c, hc⟩ := exists_firstRepeat hn
      rw [hcollision c hc] at hp
      exact ⟨c, (Except.error.inj hp).symm, hc⟩
  · rintro ⟨c, rfl, hc⟩
    exact hcollision c hc

/-! ## 3. No failure of the registry -/

/-- What a planned file takes from the settings: its template by its role, and its path. -/
def PlannedFile.FromSettings (c : Config) (f : PlannedFile) : Prop :=
  (∃ role, f.template = c.templateFor role) ∧
    ∃ path : Except Fault String, f.path = path.mapError .fault

theorem plannedFiles_fromSettings (g : Generator) (m : Model) :
    ∀ f ∈ g.plannedFiles m, f.FromSettings g.config := by
  intro f hf
  rcases List.mem_append.mp hf with hf | hf
  · obtain ⟨a, _, hf⟩ := List.mem_flatMap.mp hf
    rcases List.mem_cons.mp hf with rfl | hf
    · exact ⟨⟨_, rfl⟩, .ok _, rfl⟩
    · obtain ⟨e, _, rfl⟩ := List.mem_map.mp hf
      exact ⟨⟨_, rfl⟩, .ok _, rfl⟩
  · rcases List.mem_append.mp hf with hf | hf
    · obtain ⟨c, _, rfl⟩ := List.mem_map.mp hf
      exact ⟨⟨_, rfl⟩, _, rfl⟩
    · unfold Generator.rootIndexFiles at hf
      split at hf
      · rw [List.mem_singleton.mp hf]
        exact ⟨⟨_, rfl⟩, _, rfl⟩
      · exact absurd hf List.not_mem_nil

/-- Failures that settings can bring about. -/
def Failure.ofSettings : Failure → Bool
  | config _ => true
  | fault _ => true
  | _ => false

theorem templateFor_error {c : Config} {role : String} {problem : Failure}
    (h : c.templateFor role = .error problem) : problem.ofSettings = true := by
  unfold Config.templateFor at h
  split at h
  · split at h
    · cases h
    · cases h
      rfl
  · cases h
    rfl

/-- A file cannot be rendered because of the settings or because of what renders. -/
theorem rendered_error {c : Config} {f : PlannedFile} (hf : f.FromSettings c) {e : ρ}
    {problem : Failure} (h : (f.rendered render e).2 = .error problem) :
    problem.ofSettings = true ∨ ∃ t x, (render e t x).2 = .error problem := by
  obtain ⟨⟨role, hrole⟩, path, hpath⟩ := hf
  rcases hresult : f.rendered render e with ⟨e', out⟩
  rw [hresult] at h
  obtain rfl : out = .error problem := h
  cases rendered_eq_iff.mp hresult with
  | missing ht => exact Or.inl (templateFor_error (hrole.symm.trans ht))
  | unrendered _ hr => exact Or.inr ⟨_, _, congrArg Prod.snd hr⟩
  | unplaced _ _ hp =>
      rw [hpath] at hp
      cases path with
      | error fault =>
          cases hp
          exact Or.inl rfl
      | ok path => cases hp

/-- **Only what renders can bring in an error of a registry.** -/
theorem outcome_ne_registry (g : Generator) (h : m.Fresh) {r : RegistryError}
    (hrender : ∀ e t x, (render e t x).2 ≠ .error (.registry r)) (e : ρ) (s : σ) :
    (g.generate render sink m e s).outcome ≠ .error (.registry r) := by
  intro ho
  obtain ⟨done, st, rest, p, q, hplan, _, hst⟩ := (outcome_error_iff g h e s _).mp ho
  rcases failing_step hplan hst with ⟨f, hf, rfl⟩ | hmissing
  · have hfrom := plannedFiles_fromSettings g m f hf
    generalize hproblem : some (Failure.registry r) = problem at hst
    cases stepResult_of_eq hst with
    | unrendered hr =>
        cases hproblem
        rcases rendered_error hfrom (congrArg Prod.snd hr) with hsettings | ⟨t, x, hx⟩
        · cases hsettings
        · exact hrender p.engine t x hx
    | taken => cases hproblem
    | refused => cases hproblem
    | accepted => cases hproblem
  · cases templateFor_error hmissing

/-! ## 4. Main result -/

variable (render) in
/-- **A walk that fails hands over exactly the files before its first failing step.** It fails
    exactly if there is such a step, and that is a planned file unless the indexes of kinds have no
    template. If everything can be rendered and nothing is refused, it fails exactly if two planned
    paths are equal, and the failure names the first path that repeats an earlier one, with the
    earlier and the later item. It never fails in its registry, unless what renders does. -/
theorem generate_interrupted (g : Generator) {kept : σ → List GeneratedFile} (hk : sink.Keeps kept)
    {document : Data} {source : Option String} (h : Model.ofDocument document source = .ok m)
    (e : ρ) (s : σ) :
    (∀ problem, (g.generate render sink m e s).outcome = .error problem ↔
      ∃ done st rest p q, g.plan m = done ++ st :: rest ∧
        takeSteps render sink (.start e s) done = (p, none) ∧
        takeStep render sink p st = (q, some problem)) ∧
    (∀ done st rest p q problem, g.plan m = done ++ st :: rest →
      takeSteps render sink (.start e s) done = (p, none) →
      takeStep render sink p st = (q, some problem) →
        ((∃ f ∈ g.plannedFiles m, st = .file f) ∨
          g.config.templateFor subModuleRole = .error problem) ∧
        kept (g.generate render sink m e s).sink = kept s ++ p.files ∧
        renderSteps render e done = .ok p.placed) ∧
    (∀ placed, sink.AcceptsAll → renderSteps render e (g.plan m) = .ok placed →
      placed.map slotOf = g.layout m ∧
      ((∃ c, (g.generate render sink m e s).outcome = .error (.collision c)) ↔
        ¬ ((g.layout m).map (·.2.1)).Nodup) ∧
      ∀ problem, (g.generate render sink m e s).outcome = .error problem ↔
        ∃ c, problem = .collision c ∧ FirstRepeat placed c) ∧
    ∀ r, (∀ e t x, (render e t x).2 ≠ .error (.registry r)) →
      (g.generate render sink m e s).outcome ≠ .error (.registry r) := by
  have hf := fresh_ofDocument h
  refine ⟨outcome_error_iff g hf e s, fun done st rest p q problem hplan hdone hst =>
    ⟨failing_step hplan hst, kept_of_failed hk g hf hplan hdone hst⟩,
    fun placed ha hr => ?_, fun r hrender => outcome_ne_registry g hf hrender e s⟩
  have hfirst := outcome_error_iff_firstRepeat ha g hf hr s
  have hslots : placed.map slotOf = g.layout m := (layout_rendered hr).trans (g.slots_plan m)
  rw [← hslots, nodup_slots_iff]
  refine ⟨rfl, ⟨?_, ?_⟩, hfirst⟩
  · rintro ⟨c, hc⟩ hn
    obtain ⟨_, _, hrepeat⟩ := (hfirst _).mp hc
    exact not_nodup_of_firstRepeat hrepeat hn
  · intro hn
    obtain ⟨c, hc⟩ := exists_firstRepeat hn
    exact ⟨c, (hfirst _).mpr ⟨c, rfl, hc⟩⟩

end Failing

/-- Two aggregates whose keys differ only in case. -/
def twinsDocument : Data :=
  .mapping [(.text "aggregates", .mapping [
    (.text "order", .mapping []), (.text "Order", .mapping [])])]

/-- The model of the document. -/
def twins : Model where
  aggregates := [⟨"order", [], [], none⟩, ⟨"Order", [], [], none⟩]
  extra := []
  source := none

/-- The files of the model, if they could all be placed. -/
def twinsFiles : List (Item × GeneratedFile) := [
  (.aggregate "order", ⟨"aggregates/order.js", "0", some "Order"⟩),
  (.aggregate "Order", ⟨"aggregates/order.js", "1", some "Order"⟩),
  (.rootIndex, ⟨"index.js", "2", none⟩)]

theorem ofDocument_twins : Model.ofDocument twinsDocument none = .ok twins := rfl

/-- A sink that takes two files, and two aggregates with one path. -/
theorem generate_interrupted_orders :
    (plainGenerator.generate countingRenderer (failingSink 2) orders 0 []).outcome =
        .error (.fault (.system .refused)) ∧
      (plainGenerator.generate countingRenderer (failingSink 2) orders 0 []).sink =
        (ordersFiles.take 2).map (·.2) ∧
      (plainGenerator.generate countingRenderer memorySink twins 0 []).outcome =
        .error (.collision ⟨"aggregates/order.js", .aggregate "order", .aggregate "Order"⟩) := by
  obtain ⟨hfail, hkept, _⟩ := generate_interrupted countingRenderer plainGenerator
    (Sink.failingSink_keeps 2) ofDocument_orders 0 []
  obtain ⟨_, _, hcollision, _⟩ := generate_interrupted countingRenderer plainGenerator
    Sink.memorySink_keeps ofDocument_twins 0 []
  -- the first two steps are taken, the third is refused
  have hplan : plainGenerator.plan orders = (plainGenerator.plan orders).take 2 ++
      (plainGenerator.plan orders).drop 2 := (List.take_append_drop 2 _).symm
  have hdone : takeSteps countingRenderer (failingSink 2) (.start 0 [])
      ((plainGenerator.plan orders).take 2) =
        (⟨2, (ordersFiles.take 2).map (·.2), ordersFiles.take 2⟩, none) := rfl
  refine ⟨(hfail _).mpr ⟨_, _, _, _, _, hplan, hdone, rfl⟩,
    (hkept _ _ _ _ _ _ hplan hdone rfl).2.1, ?_⟩
  have hr : renderSteps countingRenderer 0 (plainGenerator.plan twins) = .ok twinsFiles := by
    decide +kernel
  exact ((hcollision twinsFiles Sink.memorySink_acceptsAll hr).2.2 _).mpr
    ⟨_, rfl, [_], _, [_], rfl, by decide, _, List.mem_singleton_self _, rfl, rfl⟩

end DomainGen
