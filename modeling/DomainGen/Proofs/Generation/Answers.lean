import DomainGen.Proofs.Generation.Calls
import DomainGen.Proofs.Generation.Interruption
import DomainGen.Proofs.Template.Cache

/-!
# Answers to the calls of a walk

What renders may keep a state. If the state does not matter for the answers, a walk goes on for as long as
its calls are answered with texts, and a call that is not is its last: the walk ends with that answer.

* `Renderer.Answers` : a renderer that answers each call in one way;
* `RunEnd` : how a walk over some calls can end;
* `takeSteps_answers` : **the steps of a plan end in one of these ways**;
* `generate_template_iff` : a walk ends with an error of a template exactly if one of its calls is answered
  with one;
* `engineRenderer_answers` : **an engine answers as it did at first**, and `answer_eq` : how it answers.
-/

namespace DomainGen

variable {ρ σ : Type}

/-! ## 1. Ends -/

/-- A renderer answers each call in one way, as long as it is in states of a kind, which it then does not
    leave. -/
structure Renderer.Answers (render : Renderer ρ) (I : ρ → Prop)
    (answer : RenderCall → Except Failure String) : Prop where
  kept : ∀ ⦃e⦄, I e → ∀ template context, I (render e template context).1
  answer_eq : ∀ ⦃e⦄, I e → ∀ template context,
    (render e template context).2 = answer ⟨template, context⟩

/-- How a run with some calls can end: all of them are answered with texts, and no template is to blame
    for what ends the run, if anything does; or the last of them is answered with the failure that ends
    it. -/
inductive RunEnd (answer : RenderCall → Except Failure String) :
    List RenderCall → Option Failure → Prop where
  | answered {calls o} (hcalls : ∀ call ∈ calls, ∃ text, answer call = .ok text)
      (ho : ∀ problem, o ≠ some (.template problem)) : RunEnd answer calls o
  | failed {done call problem} (hdone : ∀ call ∈ done, ∃ text, answer call = .ok text)
      (hcall : answer call = .error problem) : RunEnd answer (done ++ [call]) (some problem)

/-- Why a check failed, if it did. -/
def failureOf {α : Type} : Except Failure α → Option Failure
  | .ok _ => none
  | .error problem => some problem

namespace RunEnd

variable {answer : RenderCall → Except Failure String} {calls more : List RenderCall}
  {o : Option Failure}

theorem nil (ho : ∀ problem, o ≠ some (.template problem)) : RunEnd answer [] o :=
  .answered (fun _ h => absurd h List.not_mem_nil) ho

/-- The end of a run with one call. -/
theorem single {call : RenderCall} {x : Except Failure String} (h : answer call = x)
    (ho : (∃ text, x = .ok text) → ∀ problem, o ≠ some (.template problem))
    (hx : ∀ problem, x = .error problem → o = some problem) : RunEnd answer [call] o := by
  cases x with
  | ok text =>
      refine .answered (fun c hc => ?_) (ho ⟨text, rfl⟩)
      rw [List.mem_singleton.mp hc]
      exact ⟨text, h⟩
  | error problem =>
      rw [hx problem rfl]
      have hbefore : ∀ call ∈ [], ∃ text, answer call = .ok text := fun _ hc => absurd hc List.not_mem_nil
      exact .failed hbefore h

/-- In a run that goes on all calls are answered. -/
theorem all_answered (h : RunEnd answer calls none) : ∀ call ∈ calls, ∃ text, answer call = .ok text := by
  cases h with
  | answered hcalls ho => exact hcalls

/-- A run that goes on, and the calls after it. -/
theorem append (h : RunEnd answer calls none) (hmore : RunEnd answer more o) :
    RunEnd answer (calls ++ more) o := by
  have hcalls := h.all_answered
  cases hmore with
  | answered hmore ho =>
      refine .answered (fun call hcall => ?_) ho
      exact (List.mem_append.mp hcall).elim (hcalls call) (hmore call)
  | failed hdone hcall =>
      rw [← List.append_assoc]
      refine .failed (fun call hmem => ?_) hcall
      exact (List.mem_append.mp hmem).elim (hcalls call) (hdone call)

/-- A run that would go on ends for another reason. -/
theorem otherwise (h : RunEnd answer calls none) (ho : ∀ problem, o ≠ some (.template problem)) :
    RunEnd answer calls o := .answered h.all_answered ho

/-- **A run ends with an error of a template exactly if one of its calls is answered with one.** -/
theorem template_iff (h : RunEnd answer calls o) : (∃ problem, o = some (.template problem)) ↔
    ∃ call ∈ calls, ∃ problem, answer call = .error (.template problem) := by
  have hok : ∀ {call : RenderCall}, (∃ text, answer call = .ok text) →
      ∀ problem, answer call ≠ .error problem := by
    rintro call ⟨text, htext⟩ problem hcall
    rw [htext] at hcall
    cases hcall
  cases h with
  | answered hcalls ho =>
      refine iff_of_false (fun ⟨problem, h⟩ => ho problem h) ?_
      rintro ⟨call, hmem, problem, hcall⟩
      exact hok (hcalls call hmem) _ hcall
  | @failed done last problem hdone hlast =>
      constructor
      · rintro ⟨cause, heq⟩
        refine ⟨last, List.mem_append_right _ List.mem_cons_self, cause, ?_⟩
        rw [hlast, Option.some.inj heq]
      · rintro ⟨call, hmem, cause, hcall⟩
        rcases List.mem_append.mp hmem with hmem | hmem
        · exact absurd hcall (hok (hdone call hmem) _)
        · rw [List.mem_singleton.mp hmem, hlast] at hcall
          exact ⟨cause, congrArg some (Except.error.inj hcall)⟩

end RunEnd

/-! ## 2. Steps -/

section Steps

variable {render : Renderer ρ} {I : ρ → Prop} {answer : RenderCall → Except Failure String}
  {sink : Sink σ} {c : Config}

/-- Settings are not to blame for errors of templates. -/
theorem ne_template_of_settings {problem : Failure} (h : problem.ofSettings = true)
    (cause : TemplateError) : some problem ≠ some (.template cause) := by
  rintro heq
  rw [Option.some.inj heq] at h
  cases h

/-- Rendering a file is a run with its call, if it has one. -/
theorem rendered_answers (hr : render.Answers I answer) {f : PlannedFile} (hf : f.FromSettings c)
    {e e' : ρ × List RenderCall} {out : Except Failure GeneratedFile} (he : I e.1)
    (h : f.rendered (recording render) e = (e', out)) :
    I e'.1 ∧ ∃ calls, e'.2 = e.2 ++ calls ∧ RunEnd answer calls (failureOf out) := by
  obtain ⟨⟨role, htemplate⟩, hpath⟩ := hf
  -- the call is noted with its answer
  have hcalled {template : Data} {next : ρ × List RenderCall} {x : Except Failure String}
      (ha : recording render e template f.context = (next, x)) :
      I next.1 ∧ next.2 = e.2 ++ [⟨template, f.context⟩] ∧ answer ⟨template, f.context⟩ = x := by
    cases ha
    exact ⟨hr.kept he _ _, rfl, (hr.answer_eq he _ _).symm⟩
  cases rendered_eq_iff.mp h with
  | missing ht =>
      refine ⟨he, [], (List.append_nil _).symm, .nil fun cause => ?_⟩
      exact ne_template_of_settings (templateFor_error (htemplate.symm.trans ht)) cause
  | unrendered ht ha =>
      obtain ⟨hkept, hcalls, hanswer⟩ := hcalled ha
      refine ⟨hkept, [_], hcalls, .single hanswer (fun ⟨_, hx⟩ => by cases hx) fun p hp => ?_⟩
      exact congrArg some (Except.error.inj hp)
  | unplaced ht ha hp =>
      obtain ⟨hkept, hcalls, hanswer⟩ := hcalled ha
      obtain ⟨path, hpath⟩ := hpath
      refine ⟨hkept, [_], hcalls, .single hanswer (fun _ cause heq => ?_) fun p hx => by cases hx⟩
      cases path with
      | error fault =>
          cases hp.symm.trans hpath
          cases heq
      | ok path => cases hp.symm.trans hpath
  | rendered ht ha hp =>
      obtain ⟨hkept, hcalls, hanswer⟩ := hcalled ha
      exact ⟨hkept, [_], hcalls, .single hanswer (fun _ cause heq => by cases heq) fun p hx => by cases hx⟩

/-- A step takes what it needs from the settings. -/
def PlanStep.FromSettings (c : Config) : PlanStep → Prop
  | .lookup template => ∃ role, template = c.templateFor role
  | .file f => f.FromSettings c

theorem plan_fromSettings (g : Generator) (m : Model) :
    ∀ st ∈ g.plan m, st.FromSettings g.config := by
  intro st hst
  rcases Generator.mem_plan hst with ⟨f, hf, rfl⟩ | rfl
  · exact plannedFiles_fromSettings g m f hf
  · exact ⟨_, rfl⟩

/-- **A step is a run with its call.** -/
theorem takeStep_answers (hr : render.Answers I answer)
    {p q : Progress (ρ × List RenderCall) σ} {st : PlanStep} {o : Option Failure}
    (hst : st.FromSettings c) (hp : I p.engine.1)
    (h : takeStep (recording render) sink p st = (q, o)) :
    I q.engine.1 ∧ ∃ calls, q.engine.2 = p.engine.2 ++ calls ∧ RunEnd answer calls o := by
  cases stepResult_of_eq h with
  | found => exact ⟨hp, [], (List.append_nil _).symm, .nil fun _ heq => by cases heq⟩
  | missing =>
      obtain ⟨role, htemplate⟩ := hst
      refine ⟨hp, [], (List.append_nil _).symm, .nil fun cause => ?_⟩
      exact ne_template_of_settings (templateFor_error htemplate.symm) cause
  | unrendered hrendered => exact rendered_answers hr hst hp hrendered
  | taken hrendered _ =>
      obtain ⟨hq, calls, hcalls, hend⟩ := rendered_answers hr hst hp hrendered
      exact ⟨hq, calls, hcalls, hend.otherwise fun _ heq => by cases heq⟩
  | refused hrendered _ _ =>
      obtain ⟨hq, calls, hcalls, hend⟩ := rendered_answers hr hst hp hrendered
      exact ⟨hq, calls, hcalls, hend.otherwise fun _ heq => by cases heq⟩
  | accepted hrendered _ _ => exact rendered_answers hr hst hp hrendered

/-- **Steps are a run with their calls**, by induction on the steps: each is a run that goes on, but for
    the last. -/
theorem takeSteps_answers (hr : render.Answers I answer) : ∀ {steps : List PlanStep}
    {p q : Progress (ρ × List RenderCall) σ} {o : Option Failure},
    (∀ st ∈ steps, st.FromSettings c) → I p.engine.1 →
      takeSteps (recording render) sink p steps = (q, o) →
        ∃ calls, q.engine.2 = p.engine.2 ++ calls ∧ RunEnd answer calls o
  | [], p, q, o, _, _, h => by
      cases h
      exact ⟨[], (List.append_nil _).symm, .nil fun _ heq => by cases heq⟩
  | st :: rest, p, q, o, hsteps, hp, h => by
      obtain ⟨hst, hrest⟩ := List.forall_mem_cons.mp hsteps
      rcases takeSteps_cons_eq h with ⟨next, hnext, h⟩ | ⟨_, hnext, rfl⟩
      · obtain ⟨hkept, calls, hcalls, hend⟩ := takeStep_answers hr hst hp hnext
        obtain ⟨more, hmore, hends⟩ := takeSteps_answers hr hrest hkept h
        exact ⟨calls ++ more, by rw [hmore, hcalls, List.append_assoc], hend.append hends⟩
      · exact (takeStep_answers hr hst hp hnext).2

end Steps

/-! ## 3. A walk -/

section Walks

variable {render : Renderer ρ} {I : ρ → Prop} {answer : RenderCall → Except Failure String}

/-- **A walk is a run with its calls.** -/
theorem generate_answers (g : Generator) (hr : render.Answers I answer) (sink : Sink σ) {m : Model}
    (h : m.Fresh) {e : ρ} (he : I e) (s : σ) :
    RunEnd answer (g.calls render sink m e s)
      (failureOf (g.generate render sink m e s).outcome) := by
  rw [← (generate_recording g render sink h e s).1]
  unfold Generator.calls
  rw [generate_eq_takeSteps g (recording render) sink h]
  rcases hq : takeSteps (recording render) sink (.start (e, []) s) (g.plan m) with ⟨q, o⟩
  obtain ⟨calls, hcalls, hend⟩ := takeSteps_answers hr (plan_fromSettings g m) he hq
  have hnotes : q.engine.2 = calls := hcalls
  have ho : failureOf (Progress.outcome m (q, o)) = o := by cases o <;> rfl
  show RunEnd answer q.engine.2 (failureOf (Progress.outcome m (q, o)))
  rw [ho, hnotes]
  exact hend

/-- A walk whose first call is answered with a failure ends with it. -/
theorem outcome_of_first (g : Generator) (hr : render.Answers I answer) (sink : Sink σ) {m : Model}
    (h : m.Fresh) {e : ρ} (he : I e) (s : σ) {f : PlannedFile} {rest : List PlanStep}
    (hplan : g.plan m = .file f :: rest) {call : RenderCall} (hcall : f.call? = some call)
    {problem : Failure} (hanswer : answer call = .error problem) :
    (g.generate render sink m e s).outcome = .error problem := by
  obtain ⟨htemplate, hcontext⟩ := call?_eq_some hcall
  have hrender : (render e call.template call.context).2 = .error problem :=
    (hr.answer_eq he _ _).trans hanswer
  rw [outcome_error_iff g h]
  refine ⟨[], .file f, rest, .start e s, ?_⟩
  rcases hnext : render e call.template call.context with ⟨next, failed | text⟩ <;>
    rw [hnext] at hrender <;> cases hrender
  refine ⟨⟨next, s, []⟩, hplan, rfl, ?_⟩
  have hrendered : f.rendered render e = (next, .error problem) :=
    rendered_eq_iff.mpr (.unrendered htemplate (hcontext ▸ hnext))
  have hstart : f.rendered render (Progress.start e s).engine = (next, .error problem) := hrendered
  unfold takeStep
  dsimp only
  rw [hstart]
  rfl

/-- **A walk ends with an error of a template exactly if one of its calls is answered with one.** -/
theorem generate_template_iff (g : Generator) (hr : render.Answers I answer) (sink : Sink σ) {m : Model}
    (h : m.Fresh) {e : ρ} (he : I e) (s : σ) :
    (∃ problem, (g.generate render sink m e s).outcome = .error (.template problem)) ↔
      ∃ call ∈ g.calls render sink m e s, ∃ problem, answer call = .error (.template problem) := by
  rw [← (generate_answers g hr sink h he s).template_iff]
  cases (g.generate render sink m e s).outcome with
  | ok gen => exact iff_of_false (fun ⟨_, h⟩ => by cases h) fun ⟨_, h⟩ => by cases h
  | error problem =>
      constructor
      · rintro ⟨cause, heq⟩
        exact ⟨cause, congrArg some (Except.error.inj heq)⟩
      · rintro ⟨cause, heq⟩
        exact ⟨cause, congrArg Except.error (Option.some.inj heq)⟩

end Walks

/-! ## 4. Engines -/

section Engines

variable {tree : FileTree} {fresh : Engine}

/-- What an engine answers a call. -/
def Engine.answer (tree : FileTree) (e : Engine) (call : RenderCall) : Except Failure String :=
  (e.render tree call.template call.context).2

/-- **An engine that is in use answers as it did at first.** -/
theorem engineRenderer_answers (tree : FileTree) (fresh : Engine) :
    (engineRenderer tree).Answers (Engine.Alike tree fresh) (fresh.answer tree) where
  kept e h name context := h.trans (Engine.alike_render e tree name context)
  answer_eq _ h name context := (h.render name context).2.symm

/-- A call for a template that is given is answered by rendering it. -/
theorem answer_eq {name : String} {t : Template} (ht : fresh.given tree name = .ok t)
    {call : RenderCall} (hname : call.template = .text name) : fresh.answer tree call =
      (t.render call.context).mapError fun f =>
        .template (.notRendered (some (Data.text name).plain) t call.context f) := by
  have hgiven : fresh.nameOf (.text name) >>= fresh.given tree = .ok t := ht
  unfold Engine.answer
  rw [hname, Engine.render_result, hgiven]
  rfl

/-- Such a call is answered with an error of a template exactly if it has no text. -/
theorem answer_template_iff {name : String} {t : Template} (ht : fresh.given tree name = .ok t)
    {call : RenderCall} (hname : call.template = .text name) :
    (∃ problem, fresh.answer tree call = .error (.template problem)) ↔
      ¬ ∃ text, t.render call.context = .ok text := by
  rw [answer_eq ht hname]
  cases t.render call.context with
  | error f => exact iff_of_true ⟨_, rfl⟩ fun ⟨_, h⟩ => by cases h
  | ok text => exact iff_of_false (fun ⟨_, h⟩ => by cases h) fun h => h ⟨text, rfl⟩

end Engines

end DomainGen
