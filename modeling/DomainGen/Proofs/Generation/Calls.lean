import DomainGen.Proofs.Generation.Listing

/-!
# What a walk has rendered

A renderer can be made to note what it is asked for: the template and what the template is given.
Noting changes nothing else, so the notes of a walk tell which texts any walk with the same renderer
asks for, also a walk that fails.

* `recording` : a renderer that notes its calls;
* `takeSteps_recording` : **the calls of some steps are those of their files**, up to the first that
  fails;
* `Generator.calls` : what a walk over a model asks for; `generate_recording` : its calls are those
  of the planned files, in order;
* `generate_rendered` : each file of a successful walk has the text that is given for its call.
-/

namespace DomainGen

/-- What a renderer is asked for. -/
structure RenderCall where
  /-- The template. -/
  template : Data
  /-- What it is given. -/
  context : Entries

variable {ρ σ : Type}

/-- A renderer that notes what it is asked for, whether it succeeds or not. -/
def recording (render : Renderer ρ) : Renderer (ρ × List RenderCall) :=
  fun (e, calls) template context =>
    (((render e template context).1, calls ++ [⟨template, context⟩]),
      (render e template context).2)

/-- What rendering a planned file asks for, if its role has a template. -/
def PlannedFile.call? (f : PlannedFile) : Option RenderCall :=
  f.template.toOption.map (⟨·, f.context⟩)

/-- A call has the template of its role and the context of its file. -/
theorem call?_eq_some {f : PlannedFile} {call : RenderCall} (h : f.call? = some call) :
    f.template = .ok call.template ∧ f.context = call.context := by
  unfold PlannedFile.call? at h
  cases ht : f.template with
  | error problem =>
      rw [ht] at h
      cases h
  | ok template =>
      rw [ht] at h
      cases h
      exact ⟨rfl, rfl⟩

theorem call?_of_template {f : PlannedFile} {template : Data} (h : f.template = .ok template) :
    f.call? = some ⟨template, f.context⟩ := by
  unfold PlannedFile.call?
  rw [h]
  rfl

/-- What rendering the files of some steps asks for. -/
def callsOf (steps : List PlanStep) : List (Option RenderCall) :=
  (steps.filterMap PlanStep.file?).map PlannedFile.call?

/-- Calls of the first of some steps; of all of them if the steps end without a failure. -/
structure CallsUpTo (steps : List PlanStep) (o : Option Failure) (calls : List RenderCall) :
    Prop where
  first : calls.map some <+: callsOf steps
  all : o = none → calls.map some = callsOf steps

namespace CallsUpTo

variable {xs ys : List PlanStep} {o : Option Failure} {calls more : List RenderCall}

theorem of_eq (h : calls.map some = callsOf xs) : CallsUpTo xs o calls :=
  ⟨h ▸ List.prefix_rfl, fun _ => h⟩

theorem callsOf_append (xs ys : List PlanStep) : callsOf (xs ++ ys) = callsOf xs ++ callsOf ys := by
  unfold callsOf
  rw [List.filterMap_append, List.map_append]

/-- Steps that succeed, and then others. -/
theorem append (hxs : CallsUpTo xs none calls) (hys : CallsUpTo ys o more) :
    CallsUpTo (xs ++ ys) o (calls ++ more) := by
  have hall := hxs.all rfl
  constructor
  · rw [List.map_append, callsOf_append, hall]
    exact List.prefix_append_right_inj _ |>.mpr hys.first
  · intro ho
    rw [List.map_append, callsOf_append, hall, hys.all ho]

/-- Steps behind a failure have no calls. -/
theorem stop {problem : Failure} (hxs : CallsUpTo xs (some problem) calls) :
    CallsUpTo (xs ++ ys) (some problem) calls := by
  refine ⟨?_, fun hnone => by cases hnone⟩
  rw [callsOf_append]
  exact hxs.first.trans (List.prefix_append _ _)

end CallsUpTo

/-! ## 1. One step -/

/-- The same progress without the notes. -/
def Progress.unrecorded (p : Progress (ρ × List RenderCall) σ) : Progress ρ σ :=
  ⟨p.engine.1, p.sink, p.placed⟩

section Steps

variable {render : Renderer ρ} {sink : Sink σ}

/-- A file is rendered as it is without the notes, and no call but its own is noted. -/
theorem rendered_recording {f : PlannedFile} {e e' : ρ × List RenderCall}
    {out : Except Failure GeneratedFile} (h : f.rendered (recording render) e = (e', out)) :
    f.rendered render e.1 = (e'.1, out) ∧ e'.2 = e.2 ++ f.call?.toList := by
  have hcall {template : Data} {answer : Except Failure String} (ht : f.template = .ok template)
      (hr : recording render e template f.context = (e', answer)) :
      render e.1 template f.context = (e'.1, answer) ∧ e'.2 = e.2 ++ f.call?.toList := by
    cases hr
    rw [call?_of_template ht]
    exact ⟨rfl, rfl⟩
  rw [rendered_eq_iff]
  cases rendered_eq_iff.mp h with
  | missing ht =>
      refine ⟨.missing ht, ?_⟩
      unfold PlannedFile.call?
      rw [ht]
      exact (List.append_nil _).symm
  | unrendered ht hr => exact (hcall ht hr).imp_left (.unrendered ht ·)
  | unplaced ht hr hp => exact (hcall ht hr).imp_left (.unplaced ht · hp)
  | rendered ht hr hp => exact (hcall ht hr).imp_left (.rendered ht · hp)

/-- A file that was rendered has a template, so it has a call. -/
theorem call?_of_rendered {f : PlannedFile} {e e' : ρ} {file : GeneratedFile}
    (h : f.rendered render e = (e', .ok file)) : ∃ call, f.call? = some call := by
  cases rendered_eq_iff.mp h with
  | rendered ht _ _ => exact ⟨_, call?_of_template ht⟩

/-- Placing a file asks for nothing. -/
theorem place_recording (sink : Sink σ) (p : Progress (ρ × List RenderCall) σ) (item : Item)
    (file : GeneratedFile) :
    place sink p.unrecorded item file =
        ((place sink p item file).1.unrecorded, (place sink p item file).2) ∧
      (place sink p item file).1.engine = p.engine := by
  have howner : p.unrecorded.owner? file.path = p.owner? file.path := rfl
  cases ho : p.owner? file.path with
  | some first =>
      rw [place_taken ho, place_taken (howner.trans ho)]
      exact ⟨rfl, rfl⟩
  | none =>
      rcases hs : sink p.sink file with ⟨s, _ | fault⟩
      · rw [place_accepted ho hs, place_accepted (p := p.unrecorded) (howner.trans ho) hs]
        exact ⟨rfl, rfl⟩
      · rw [place_refused ho hs, place_refused (p := p.unrecorded) (howner.trans ho) hs]
        exact ⟨rfl, rfl⟩

/-- **A step with notes is the step without them**, and it notes its own calls. -/
theorem takeStep_recording {p q : Progress (ρ × List RenderCall) σ} {st : PlanStep}
    {o : Option Failure} (h : takeStep (recording render) sink p st = (q, o)) :
    takeStep render sink p.unrecorded st = (q.unrecorded, o) ∧
      ∃ calls, q.engine.2 = p.engine.2 ++ calls ∧ CallsUpTo [st] o calls := by
  cases st with
  | lookup t =>
      have hnothing : p.engine.2 = p.engine.2 ++ [] := (List.append_nil _).symm
      cases t with
      | error problem =>
          cases h
          exact ⟨rfl, [], hnothing, .of_eq rfl⟩
      | ok t =>
          cases h
          exact ⟨rfl, [], hnothing, .of_eq rfl⟩
  | file f =>
      rcases hr : f.rendered (recording render) p.engine with ⟨e, problem | file⟩
      · obtain ⟨hplain, hcalls⟩ := rendered_recording hr
        simp only [takeStep, hr] at h
        cases h
        refine ⟨?_, f.call?.toList, hcalls, ?_, fun hnone => by cases hnone⟩
        · have hplain' : f.rendered render p.unrecorded.engine = (e.1, .error problem) := hplain
          simp only [takeStep, hplain']
          rfl
        · cases hc : f.call? with
          | none => exact List.nil_prefix
          | some call =>
              have hone : callsOf [.file f] = [some call] := congrArg (fun c => [c]) hc
              exact hone ▸ List.prefix_rfl
      · obtain ⟨hplain, hcalls⟩ := rendered_recording hr
        obtain ⟨call, hcall⟩ := call?_of_rendered hplain
        obtain ⟨hplaced, hengine⟩ :=
          place_recording sink { p with engine := e } f.item file
        rw [takeStep_rendered hr] at h
        rw [h] at hplaced hengine
        refine ⟨?_, [call], ?_, .of_eq (congrArg (fun c => [c]) hcall.symm)⟩
        · rw [takeStep_rendered (p := p.unrecorded) hplain]
          exact hplaced
        · rw [hengine, hcalls, hcall]
          rfl

/-! ## 2. Several steps -/

/-- **Steps with notes are the steps without them**, and they note their own calls up to the first
    step that fails. -/
theorem takeSteps_recording : ∀ {steps : List PlanStep}
    {p q : Progress (ρ × List RenderCall) σ} {o : Option Failure},
    takeSteps (recording render) sink p steps = (q, o) →
      takeSteps render sink p.unrecorded steps = (q.unrecorded, o) ∧
        ∃ calls, q.engine.2 = p.engine.2 ++ calls ∧ CallsUpTo steps o calls
  | [], p, q, o, h => by
      cases h
      exact ⟨rfl, [], (List.append_nil _).symm, .of_eq rfl⟩
  | st :: rest, p, q, o, h => by
      unfold takeSteps
      rcases takeSteps_cons_eq h with ⟨next, hst, h⟩ | ⟨_, hst, rfl⟩
      · obtain ⟨hplain, calls, hcalls, hone⟩ := takeStep_recording hst
        obtain ⟨hrest, more, hmore, hothers⟩ := takeSteps_recording h
        refine ⟨?_, calls ++ more, ?_, hone.append hothers⟩
        · rw [hplain]
          exact hrest
        · rw [hmore, hcalls, List.append_assoc]
      · obtain ⟨hplain, calls, hcalls, hone⟩ := takeStep_recording hst
        refine ⟨?_, calls, hcalls, hone.stop⟩
        rw [hplain]

end Steps

/-! ## 3. A walk -/

namespace Generator

variable (g : Generator) (render : Renderer ρ) (sink : Sink σ)

/-- What a walk over a model asks for, in order. -/
def calls (m : Model) (e : ρ) (s : σ) : List RenderCall :=
  (g.generate (recording render) sink m (e, []) s).engine.2

theorem callsOf_plan (m : Model) :
    callsOf (g.plan m) = (g.plannedFiles m).map PlannedFile.call? := by
  unfold callsOf
  rw [g.files_plan]

end Generator

/-- **Taking notes changes nothing else**, and the notes are the calls of the planned files: all of
    them after a success, the first ones after a failure. -/
theorem generate_recording (g : Generator) (render : Renderer ρ) (sink : Sink σ) {m : Model}
    (h : m.Fresh) (e : ρ) (s : σ) :
    (g.generate (recording render) sink m (e, []) s).outcome =
        (g.generate render sink m e s).outcome ∧
      (g.generate (recording render) sink m (e, []) s).sink =
        (g.generate render sink m e s).sink ∧
      (g.generate (recording render) sink m (e, []) s).engine.1 =
        (g.generate render sink m e s).engine ∧
      (g.calls render sink m e s).map some <+: (g.plannedFiles m).map PlannedFile.call? ∧
      ∀ gen, (g.generate render sink m e s).outcome = .ok gen →
        (g.calls render sink m e s).map some = (g.plannedFiles m).map PlannedFile.call? := by
  unfold Generator.calls
  rw [generate_eq_takeSteps g render sink h, generate_eq_takeSteps g (recording render) sink h,
    ← g.callsOf_plan]
  rcases hq : takeSteps (recording render) sink (.start (e, []) s) (g.plan m) with ⟨q, o⟩
  obtain ⟨hplain, calls, hcalls, hupto⟩ := takeSteps_recording hq
  have hstart : (Progress.start (e, ([] : List RenderCall)) s).unrecorded = .start e s := rfl
  rw [hstart] at hplain
  rw [hplain]
  have hall : q.engine.2 = calls := hcalls
  refine ⟨?_, rfl, rfl, ?_, fun gen hgen => ?_⟩
  · cases o <;> rfl
  · dsimp only
    rw [hall]
    exact hupto.first
  · dsimp only
    rw [hall]
    refine hupto.all ?_
    cases o with
    | none => rfl
    | some problem => cases hgen

/-! ## 4. What files are rendered from -/

/-- The renderer gives a text for a call, in some state. -/
def Renders (render : Renderer ρ) (call : RenderCall) (text : String) : Prop :=
  ∃ e, (render e call.template call.context).2 = .ok text

variable {render : Renderer ρ} {sink : Sink σ}

/-- A file that was rendered has the text that the renderer gives for its call. -/
theorem renders_of_rendered {f : PlannedFile} {e e' : ρ} {file : GeneratedFile}
    (h : f.rendered render e = (e', .ok file)) :
    ∃ call, f.call? = some call ∧ Renders render call file.content := by
  cases rendered_eq_iff.mp h with
  | rendered ht hr _ => exact ⟨_, call?_of_template ht, e, congrArg Prod.snd hr⟩

/-- The files of rendered steps have the texts of the calls of the steps. -/
theorem renders_of_renderSteps : ∀ {steps : List PlanStep} {e : ρ}
    {placed : List (Item × GeneratedFile)}, renderSteps render e steps = .ok placed →
      List.Forall₂ (fun x f => x.1 = f.item ∧ f.path = .ok x.2.path ∧
        ∃ call, f.call? = some call ∧ Renders render call x.2.content) placed
        (steps.filterMap PlanStep.file?)
  | [], e, placed, h => by
      cases h
      exact .nil
  | .lookup (.error problem) :: rest, e, placed, h => by cases h
  | .lookup (.ok t) :: rest, e, placed, h => by
      have hrest : renderSteps render e rest = .ok placed := h
      have ih := renders_of_renderSteps hrest
      exact ih
  | .file f :: rest, e, placed, h => by
      obtain ⟨e', file, others, hr, hothers, rfl⟩ := renderSteps_file h
      exact .cons ⟨rfl, (rendered_eq_ok hr).1, renders_of_rendered hr⟩
        (renders_of_renderSteps hothers)

/-- **Each file of a successful walk has its call**, and its text is what the renderer gives for the
    call. -/
theorem generate_rendered (g : Generator) {m : Model} (h : m.Fresh) {e : ρ} {s : σ} {gen : Generated}
    (hgen : (g.generate render sink m e s).outcome = .ok gen) :
    ∃ placed : List (Item × GeneratedFile), gen.files = placed.map (·.2) ∧
      placed.map slotOf = g.layout m ∧
      (g.calls render sink m e s).length = placed.length ∧
      ∀ (i : Nat) (item : Item) (file : GeneratedFile), placed[i]? = some (item, file) →
        ∃ f ∈ g.plannedFiles m, f.item = item ∧ f.path = .ok file.path ∧
          ∃ call, (g.calls render sink m e s)[i]? = some call ∧ f.template = .ok call.template ∧
            f.context = call.context ∧ Renders render call file.content := by
  obtain ⟨placed, hfiles, hslots, _, _, hr⟩ := generate_placed g h hgen
  obtain ⟨_, _, _, _, hcalls⟩ := generate_recording g render sink h e s
  have hcalls := hcalls gen hgen
  have hall := renders_of_renderSteps hr
  rw [g.files_plan] at hall
  refine ⟨placed, hfiles, hslots, ?_, fun i item file hi => ?_⟩
  · have hlength := congrArg List.length hcalls
    rw [List.length_map, List.length_map, ← hall.length_eq] at hlength
    exact hlength
  · obtain ⟨hlt, hget⟩ := List.getElem?_eq_some_iff.mp hi
    have hlt' : i < (g.plannedFiles m).length := hall.length_eq ▸ hlt
    obtain ⟨hitem, hpath, call, hcall, hcontent⟩ := List.forall₂_iff_get.mp hall |>.2 i hlt hlt'
    have hfile : placed.get ⟨i, hlt⟩ = (item, file) := hget
    rw [hfile] at hitem hpath hcontent
    obtain ⟨htemplate, hcontext⟩ := call?_eq_some hcall
    have hnoted : ((g.calls render sink m e s).map some)[i]? = some (some call) := by
      rw [hcalls, List.getElem?_map, List.getElem?_eq_getElem hlt']
      exact congrArg some hcall
    rw [List.getElem?_map] at hnoted
    obtain ⟨noted, hnoted, heq⟩ := Option.map_eq_some_iff.mp hnoted
    rw [Option.some.inj heq] at hnoted
    exact ⟨_, List.get_mem _ _, hitem.symm, hpath, call, hnoted, htemplate, hcontext, hcontent⟩

end DomainGen
