import DomainGen.Proofs.Except
import DomainGen.Proofs.Generation.Plan
import DomainGen.Proofs.Sink.Acceptance
import Mathlib.Data.List.Nodup

/-!
# Taking the steps of a plan

The steps of a plan are taken in order, up to the first that fails. A step that gives a file has
three parts: the file is rendered, its path is compared with the paths before it, and it is handed
to the sink.

* `takeStep`, `takeSteps` : one step and several steps;
* `StepResult`, `stepResult_takeStep` : **everything a step can do**, in six cases. All facts about
  several steps come from it by induction;
* `takeSteps_failed` : where a failure comes from; `takeSteps_kept` : what the sink has then;
* `takeSteps_complete`, `takeSteps_collision` : steps that can all be rendered.
-/

namespace DomainGen

/-! ## 1. Steps -/

/-- How far the steps of a plan are taken. -/
structure Progress (ρ σ : Type) where
  /-- The state of what renders. -/
  engine : ρ
  /-- The state of the sink. -/
  sink : σ
  /-- The files handed over, with what they stand for. -/
  placed : List (Item × GeneratedFile)

namespace Progress

variable {ρ σ : Type}

/-- Before the first step. -/
def start (e : ρ) (s : σ) : Progress ρ σ := ⟨e, s, []⟩

/-- The files handed over. -/
def files (p : Progress ρ σ) : List GeneratedFile := p.placed.map (·.2)

/-- What has a path. -/
def owner? (p : Progress ρ σ) (path : String) : Option Item :=
  (p.placed.find? (·.2.path == path)).map (·.1)

end Progress

section Steps

variable {ρ σ : Type} (render : Renderer ρ) (sink : Sink σ)

/-- Places a file that is rendered, unless its path is taken or the sink refuses it. -/
def place (p : Progress ρ σ) (item : Item) (file : GeneratedFile) :
    Progress ρ σ × Option Failure :=
  match p.owner? file.path with
  | some first => (p, some (.collision ⟨file.path, first, item⟩))
  | none =>
    match sink p.sink file with
    | (s, some fault) => ({ p with sink := s }, some (.fault fault))
    | (s, none) => (⟨p.engine, s, p.placed ++ [(item, file)]⟩, none)

/-- Takes one step. -/
def takeStep (p : Progress ρ σ) : PlanStep → Progress ρ σ × Option Failure
  | .lookup (.ok _) => (p, none)
  | .lookup (.error problem) => (p, some problem)
  | .file f =>
    match f.rendered render p.engine with
    | (e, .error problem) => ({ p with engine := e }, some problem)
    | (e, .ok file) => place sink { p with engine := e } f.item file

/-- Takes steps in order, up to the first that fails. -/
def takeSteps : Progress ρ σ → List PlanStep → Progress ρ σ × Option Failure
  | p, [] => (p, none)
  | p, st :: rest =>
    match takeStep render sink p st with
    | (q, some problem) => (q, some problem)
    | (q, none) => takeSteps q rest

/-! ## 2. What a step can do -/

/-- The possible results of a step. -/
inductive StepResult (p : Progress ρ σ) : PlanStep → Progress ρ σ → Option Failure → Prop where
  /-- A template that is looked up is there. -/
  | found {t} : StepResult p (.lookup (.ok t)) p none
  /-- A template that is looked up is not there. -/
  | missing {problem} : StepResult p (.lookup (.error problem)) p (some problem)
  /-- The file cannot be rendered. -/
  | unrendered {f e problem} (hr : f.rendered render p.engine = (e, .error problem)) :
      StepResult p (.file f) { p with engine := e } (some problem)
  /-- The path is taken. -/
  | taken {f e file first} (hr : f.rendered render p.engine = (e, .ok file))
      (ho : p.owner? file.path = some first) :
      StepResult p (.file f) { p with engine := e }
        (some (.collision ⟨file.path, first, f.item⟩))
  /-- The sink refuses the file. -/
  | refused {f e file s fault} (hr : f.rendered render p.engine = (e, .ok file))
      (ho : p.owner? file.path = none) (hs : sink p.sink file = (s, some fault)) :
      StepResult p (.file f) { p with engine := e, sink := s } (some (.fault fault))
  /-- The sink accepts the file. -/
  | accepted {f e file s} (hr : f.rendered render p.engine = (e, .ok file))
      (ho : p.owner? file.path = none) (hs : sink p.sink file = (s, none)) :
      StepResult p (.file f) ⟨e, s, p.placed ++ [(f.item, file)]⟩ none

variable {render sink}

section Placing

variable {p : Progress ρ σ} {item : Item} {file : GeneratedFile}

theorem place_taken {first : Item} (ho : p.owner? file.path = some first) :
    place sink p item file = (p, some (.collision ⟨file.path, first, item⟩)) := by
  unfold place
  rw [ho]

theorem place_refused {s : σ} {fault : Fault} (ho : p.owner? file.path = none)
    (hs : sink p.sink file = (s, some fault)) :
    place sink p item file = ({ p with sink := s }, some (.fault fault)) := by
  unfold place
  rw [ho]
  simp only [hs]

theorem place_accepted {s : σ} (ho : p.owner? file.path = none)
    (hs : sink p.sink file = (s, none)) :
    place sink p item file = (⟨p.engine, s, p.placed ++ [(item, file)]⟩, none) := by
  unfold place
  rw [ho]
  simp only [hs]

theorem takeStep_rendered {f : PlannedFile} {e : ρ}
    (hr : f.rendered render p.engine = (e, .ok file)) :
    takeStep render sink p (.file f) = place sink { p with engine := e } f.item file := by
  simp only [takeStep, hr]

end Placing

/-- **Every step has one of the results.** -/
theorem stepResult_takeStep (p : Progress ρ σ) (st : PlanStep) :
    StepResult render sink p st (takeStep render sink p st).1 (takeStep render sink p st).2 := by
  cases st with
  | lookup t =>
      cases t with
      | ok t => exact .found
      | error problem => exact .missing
  | file f =>
      rcases hr : f.rendered render p.engine with ⟨e, problem | file⟩
      · simp only [takeStep, hr]
        exact .unrendered hr
      · rw [takeStep_rendered hr]
        cases ho : p.owner? file.path with
        | some first =>
            rw [place_taken (p := { p with engine := e }) ho]
            exact .taken hr ho
        | none =>
            rcases hs : sink p.sink file with ⟨s, _ | fault⟩
            · rw [place_accepted (p := { p with engine := e }) ho hs]
              exact .accepted hr ho hs
            · rw [place_refused (p := { p with engine := e }) ho hs]
              exact .refused hr ho hs

theorem stepResult_of_eq {p q : Progress ρ σ} {st : PlanStep} {o : Option Failure}
    (h : takeStep render sink p st = (q, o)) : StepResult render sink p st q o := by
  have hr : StepResult render sink p st _ _ := stepResult_takeStep p st
  rw [h] at hr
  exact hr

/-! ## 3. Several steps -/

/-- Steps go on behind the first one, or end with it. -/
theorem takeSteps_cons_eq {p q : Progress ρ σ} {st : PlanStep} {rest : List PlanStep}
    {o : Option Failure} (h : takeSteps render sink p (st :: rest) = (q, o)) :
    (∃ next, takeStep render sink p st = (next, none) ∧ takeSteps render sink next rest = (q, o)) ∨
      ∃ problem, takeStep render sink p st = (q, some problem) ∧ o = some problem := by
  unfold takeSteps at h
  rcases hst : takeStep render sink p st with ⟨next, _ | problem⟩
  · rw [hst] at h
    exact .inl ⟨next, rfl, h⟩
  · rw [hst] at h
    cases h
    exact .inr ⟨problem, rfl, rfl⟩

theorem takeSteps_append (p : Progress ρ σ) : ∀ xs ys : List PlanStep,
    takeSteps render sink p (xs ++ ys) =
      match takeSteps render sink p xs with
      | (q, some problem) => (q, some problem)
      | (q, none) => takeSteps render sink q ys
  | [], ys => rfl
  | st :: rest, ys => by
      simp only [List.cons_append, takeSteps]
      rcases takeStep render sink p st with ⟨q, _ | problem⟩
      · exact takeSteps_append q rest ys
      · rfl

/-- Steps end without a failure, or there is a first one that fails. -/
theorem takeSteps_failed : ∀ {steps : List PlanStep} {p q : Progress ρ σ} {problem : Failure},
    takeSteps render sink p steps = (q, some problem) →
      ∃ done st rest mid, steps = done ++ st :: rest ∧
        takeSteps render sink p done = (mid, none) ∧
        takeStep render sink mid st = (q, some problem)
  | [], p, q, problem, h => by cases h
  | st :: rest, p, q, problem, h => by
      rcases takeSteps_cons_eq h with ⟨next, hst, h⟩ | ⟨_, hst, ⟨⟩⟩
      · obtain ⟨done, st', rest', mid, rfl, hdone, hlast⟩ := takeSteps_failed h
        refine ⟨st :: done, st', rest', mid, rfl, ?_, hlast⟩
        simp only [takeSteps, hst]
        exact hdone
      · exact ⟨[], st, rest, p, rfl, rfl, hst⟩

/-- A step that fails ends the run, whatever comes after it. -/
theorem takeSteps_of_failed {p mid q : Progress ρ σ} {done rest : List PlanStep} {st : PlanStep}
    {problem : Failure} (hdone : takeSteps render sink p done = (mid, none))
    (hst : takeStep render sink mid st = (q, some problem)) :
    takeSteps render sink p (done ++ st :: rest) = (q, some problem) := by
  rw [takeSteps_append, hdone]
  simp only [takeSteps, hst]

/-- A fact that none of the steps destroys holds after them. -/
theorem takeSteps_induct {I : Progress ρ σ → Prop} : ∀ {steps : List PlanStep}
    {p q : Progress ρ σ} {o : Option Failure},
    (∀ {p q st o}, st ∈ steps → StepResult render sink p st q o → I p → I q) →
      takeSteps render sink p steps = (q, o) → I p → I q
  | [], p, q, o, _, h, hp => by
      cases h
      exact hp
  | st :: rest, p, q, o, hstep, h, hp => by
      rcases takeSteps_cons_eq h with ⟨next, hst, h⟩ | ⟨_, hst, rfl⟩
      · have hnext := hstep List.mem_cons_self (stepResult_of_eq hst) hp
        exact takeSteps_induct (fun hmem => hstep (List.mem_cons_of_mem st hmem)) h hnext
      · exact hstep List.mem_cons_self (stepResult_of_eq hst) hp

/-- What no file destroys in the sink, steps do not destroy. -/
theorem takeSteps_sink_induct {I : σ → Prop} (hI : ∀ s f, I s → I (sink s f).1)
    (steps : List PlanStep) {p : Progress ρ σ} (hp : I p.sink) :
    I (takeSteps render sink p steps).1.sink := by
  rcases hq : takeSteps render sink p steps with ⟨q, o⟩
  have hnext : ∀ {p : Progress ρ σ} {f : GeneratedFile} {s : σ} {fault : Option Fault},
      sink p.sink f = (s, fault) → I p.sink → I s := by
    intro p f s fault hs hp
    have hkept := hI p.sink f hp
    rw [hs] at hkept
    exact hkept
  refine takeSteps_induct (I := fun p => I p.sink) ?_ hq hp
  intro p q st o _ hr hp
  cases hr with
  | found => exact hp
  | missing => exact hp
  | unrendered => exact hp
  | taken => exact hp
  | refused _ _ hs => exact hnext hs hp
  | accepted _ _ hs => exact hnext hs hp

/-! ## 4. What stays true -/

/-- A path has no owner exactly if no file was handed over for it. -/
theorem owner?_eq_none {p : Progress ρ σ} {path : String} :
    p.owner? path = none ↔ path ∉ pathsOf p.placed := by
  unfold Progress.owner? pathsOf
  rw [Option.map_eq_none_iff, List.find?_eq_none]
  constructor
  · intro h hmem
    obtain ⟨x, hx, heq⟩ := List.mem_map.mp hmem
    exact h x hx (beq_iff_eq.mpr heq)
  · intro h x hx heq
    exact h (List.mem_map.mpr ⟨x, hx, beq_iff_eq.mp heq⟩)

/-- The owner of a path is the item of a file that was handed over for it. -/
theorem owner?_eq_some {p : Progress ρ σ} {path : String} {first : Item}
    (h : p.owner? path = some first) : ∃ x ∈ p.placed, x.2.path = path ∧ x.1 = first := by
  obtain ⟨x, hx, rfl⟩ := Option.map_eq_some_iff.mp h
  exact ⟨x, List.mem_of_find?_eq_some hx, by simpa using List.find?_some hx, rfl⟩

theorem pathsOf_concat (placed : List (Item × GeneratedFile)) (x : Item × GeneratedFile) :
    pathsOf (placed ++ [x]) = pathsOf placed ++ [x.2.path] := by
  unfold pathsOf
  rw [List.map_append, List.map_singleton]

/-- **No two files that are handed over have one path.** -/
theorem takeSteps_nodup {steps : List PlanStep} {p q : Progress ρ σ} {o : Option Failure}
    (h : takeSteps render sink p steps = (q, o)) (hp : (pathsOf p.placed).Nodup) :
    (pathsOf q.placed).Nodup := by
  refine takeSteps_induct (I := fun p => (pathsOf p.placed).Nodup) ?_ h hp
  intro p q st o _ hr hp
  cases hr with
  | found => exact hp
  | missing => exact hp
  | unrendered => exact hp
  | taken => exact hp
  | refused => exact hp
  | accepted hr ho hs =>
      rw [pathsOf_concat, ← List.concat_eq_append]
      exact hp.concat (owner?_eq_none.mp ho)

/-- **The sink has accepted exactly the files that were handed over**, in order. -/
theorem takeSteps_kept {kept : σ → List GeneratedFile} (hk : sink.Keeps kept)
    {steps : List PlanStep} {p q : Progress ρ σ} {o : Option Failure}
    (h : takeSteps render sink p steps = (q, o)) {before : List GeneratedFile}
    (hp : kept p.sink = before ++ p.files) : kept q.sink = before ++ q.files := by
  refine takeSteps_induct (I := fun p => kept p.sink = before ++ p.files) ?_ h hp
  intro p q st o _ hr hp
  cases hr with
  | found => exact hp
  | missing => exact hp
  | unrendered => exact hp
  | taken => exact hp
  | refused hr ho hs => exact (hk.refused hs).trans hp
  | accepted hr ho hs =>
      rw [hk.accepted hs, hp]
      unfold Progress.files
      rw [List.map_append, List.append_assoc]
      rfl

/-- A step that fails hands nothing over. -/
theorem placed_of_failed {p q : Progress ρ σ} {st : PlanStep} {problem : Failure}
    (h : takeStep render sink p st = (q, some problem)) : q.placed = p.placed := by
  cases stepResult_of_eq h with
  | missing => rfl
  | unrendered => rfl
  | taken => rfl
  | refused => rfl

/-! ## 5. Steps that can be rendered -/

/-- A file that is rendered has the path and the class of its plan. -/
theorem rendered_eq_ok {f : PlannedFile} {e e' : ρ} {file : GeneratedFile}
    (h : f.rendered render e = (e', .ok file)) :
    f.path = .ok file.path ∧ f.className = file.className := by
  cases rendered_eq_iff.mp h with
  | rendered ht hr hp => exact ⟨hp, rfl⟩

theorem renderSteps_file {e : ρ} {f : PlannedFile} {rest : List PlanStep}
    {placed : List (Item × GeneratedFile)}
    (h : renderSteps render e (.file f :: rest) = .ok placed) :
    ∃ e' file others, f.rendered render e = (e', .ok file) ∧
      renderSteps render e' rest = .ok others ∧ placed = (f.item, file) :: others := by
  unfold renderSteps at h
  rcases hr : f.rendered render e with ⟨e', problem | file⟩
  · rw [hr] at h
    cases h
  · rw [hr] at h
    obtain ⟨others, ho, rfl⟩ := except_map_eq_ok.mp h
    exact ⟨e', file, others, rfl, ho, rfl⟩

/-- The files that steps without a failure hand over are those of the plan. -/
theorem takeSteps_rendered : ∀ {steps : List PlanStep} {p q : Progress ρ σ},
    takeSteps render sink p steps = (q, none) →
      ∃ placed, renderSteps render p.engine steps = .ok placed ∧ q.placed = p.placed ++ placed
  | [], p, q, h => by
      cases h
      exact ⟨[], rfl, (List.append_nil _).symm⟩
  | st :: rest, p, q, h => by
      rcases takeSteps_cons_eq h with ⟨next, hst, h⟩ | ⟨_, _, ho⟩
      · obtain ⟨others, hothers, hq⟩ := takeSteps_rendered h
        cases stepResult_of_eq hst with
        | found => exact ⟨others, hothers, hq⟩
        | @accepted f e file s hr ho hs =>
            refine ⟨(f.item, file) :: others, ?_, ?_⟩
            · simp only [renderSteps, hr, hothers, Except.map]
            · rw [hq, List.append_assoc]
              rfl
      · cases ho

/-- A file that is rendered, has a new path and is not refused is handed over. -/
theorem takeStep_accepted (ha : sink.AcceptsAll) {p : Progress ρ σ} {f : PlannedFile} {e : ρ}
    {file : GeneratedFile} (hr : f.rendered render p.engine = (e, .ok file))
    (ho : file.path ∉ pathsOf p.placed) :
    ∃ s, takeStep render sink p (.file f) = (⟨e, s, p.placed ++ [(f.item, file)]⟩, none) := by
  have hs : sink p.sink file = ((sink p.sink file).1, none) := Prod.ext rfl (ha p.sink file)
  refine ⟨(sink p.sink file).1, ?_⟩
  rw [takeStep_rendered hr]
  exact place_accepted (p := { p with engine := e }) (owner?_eq_none.mpr ho) hs

/-- **Steps that can be rendered to files with different paths are all taken.** -/
theorem takeSteps_complete (ha : sink.AcceptsAll) : ∀ {steps : List PlanStep} {p : Progress ρ σ}
    {placed : List (Item × GeneratedFile)}, renderSteps render p.engine steps = .ok placed →
      (pathsOf (p.placed ++ placed)).Nodup →
      ∃ q, takeSteps render sink p steps = (q, none) ∧ q.placed = p.placed ++ placed
  | [], p, placed, h, _ => by
      cases h
      exact ⟨p, rfl, (List.append_nil _).symm⟩
  | .lookup (.error problem) :: rest, p, placed, h, _ => by cases h
  | .lookup (.ok t) :: rest, p, placed, h, hn => by
      have hrest : renderSteps render p.engine rest = .ok placed := h
      obtain ⟨q, hq⟩ := takeSteps_complete ha hrest hn
      exact ⟨q, hq⟩
  | .file f :: rest, p, placed, h, hn => by
      obtain ⟨e, file, others, hr, hothers, rfl⟩ := renderSteps_file h
      have hnew : file.path ∉ pathsOf p.placed := by
        unfold pathsOf at hn
        rw [List.map_append, List.nodup_append] at hn
        exact fun hmem => hn.2.2 _ hmem _ List.mem_cons_self rfl
      obtain ⟨s, hst⟩ := takeStep_accepted ha hr hnew
      obtain ⟨q, hq, hplaced⟩ := takeSteps_complete ha
        (p := ⟨e, s, p.placed ++ [(f.item, file)]⟩) hothers
        (by rw [List.append_assoc]; exact hn)
      refine ⟨q, ?_, ?_⟩
      · simp only [takeSteps, hst]
        exact hq
      · rw [hplaced, List.append_assoc]
        rfl

end Steps

end DomainGen
