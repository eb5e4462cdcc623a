import DomainGen.Proofs.Generation.Answers
import DomainGen.Proofs.Model.Grammar
import DomainGen.Proofs.Pipeline.FromText

/-!
# What is checked when a pipeline is set up

A pipeline reads its templates before it sees a document. Whatever a document then needs is there: its
walk asks for no template but these, and a template that is in use stays in use. If some of the
templates are not there, all of them are named at once, before any is read.

* `Engine.HasRead` : an engine has templates in use; `hasRead_compileAll`, `hasRead_ofEngine` : **a
  pipeline has read every template its generator requires**;
* `calls_required` : a walk asks for no others;
* `Stream.Run.notRendered` : a document fails in its templates only when one is rendered;
* `readTemplates_missing_iff` : which templates are reported as missing;
* `ofEngine_checked` : all of it together.
-/

namespace DomainGen

/-! ## 1. Templates in use -/

namespace Engine

variable {e : Engine} {names : List Data}

/-- The engine has templates with these names in use. -/
def HasRead (e : Engine) (names : List Data) : Prop :=
  ∀ name ∈ names, ∃ n t, name = .text n ∧ e.compiled.lookup n = some t

theorem HasRead.compile (h : e.HasRead names) (tree : FileTree) (name : Data) :
    (e.compile tree name).1.HasRead names := by
  intro other hother
  obtain ⟨n, t, rfl, ht⟩ := h other hother
  exact ⟨n, t, rfl, compiled_compile ht tree name⟩

theorem HasRead.render (h : e.HasRead names) (tree : FileTree) (name : Data) (context : Entries) :
    (e.render tree name context).1.HasRead names := by
  rw [render_fst]
  exact h.compile tree name

theorem HasRead.append {more : List Data} (h : e.HasRead names) (hmore : e.HasRead more) :
    e.HasRead (names ++ more) := fun name hname =>
  (List.mem_append.mp hname).elim (h name) (hmore name)

/-- A template that was read is in use. -/
theorem hasRead_compile {tree : FileTree} {name : Data} {next : Engine} {t : Template}
    (h : e.compile tree name = (next, .ok t)) : next.HasRead [name] := by
  intro other hother
  obtain rfl := List.mem_singleton.mp hother
  unfold compile at h
  cases hn : e.nameOf other with
  | error f =>
      rw [hn] at h
      cases h
  | ok n =>
      rw [hn] at h
      refine ⟨n, t, nameOf_eq_ok hn, ?_⟩
      dsimp only at h
      cases hc : e.compiled.lookup n with
      | some u =>
          rw [hc] at h
          cases h
          exact hc
      | none =>
          rw [hc] at h
          cases hk : e.cached? n with
          | some found =>
              rw [hk] at h
              cases h
              exact List.lookup_cons_self
          | none =>
              rw [hk] at h
              cases hl : e.load tree n with
              | error f =>
                  rw [hl] at h
                  cases h
              | ok found =>
                  rw [hl] at h
                  cases h
                  exact List.lookup_cons_self

/-- Only a text equals a text. -/
theorem equal_text {n : String} {x : Data} (h : Data.equal (.text n) x = true) : x = .text n := by
  cases x <;> simp only [Data.equal, Data.equalScalar, Data.integer?, Bool.false_eq_true] at h
  exact congrArg Data.text (beq_iff_eq.mp h).symm

/-- **Reading some templates puts all of them in use**, also those that are passed over because they
    were read already. -/
theorem hasRead_compileAll {tree : FileTree} : ∀ {names done read : List Data} {e e' : Engine},
    compileAll tree e names done = (e', .ok read) → e.HasRead done → e'.HasRead (done ++ names)
  | [], done, read, e, e', h, hdone => by
      cases h
      rw [List.append_nil]
      exact hdone
  | name :: rest, done, read, e, e', h, hdone => by
      unfold compileAll at h
      split at h
      · rename_i hany
        obtain ⟨d, hd, heq⟩ := List.any_eq_true.mp hany
        have hall := hasRead_compileAll h hdone
        obtain ⟨n, t, rfl, -⟩ := hdone d hd
        obtain rfl := equal_text heq
        intro other hother
        rcases List.mem_append.mp hother with hmem | hmem
        · exact hall other (List.mem_append_left rest hmem)
        · rcases List.mem_cons.mp hmem with rfl | hmem
          · exact hall _ (List.mem_append_left rest hd)
          · exact hall other (List.mem_append_right done hmem)
      · rcases hc : e.compile tree name with ⟨next, f | t⟩ <;> rw [hc] at h
        · cases h
        · have hkept : next.HasRead done := by
            have hcompile := hdone.compile tree name
            rw [hc] at hcompile
            exact hcompile
          have hall := hasRead_compileAll h (hkept.append (hasRead_compile hc))
          rw [List.append_assoc] at hall
          exact hall

end Engine

/-! ## 2. Templates of a walk -/

/-- A planned file has the template of a role. -/
theorem template_of_planned {g : Generator} {m : Model} {f : PlannedFile}
    (h : f ∈ g.plannedFiles m) : ∃ role ∈ templateRoles, f.template = g.config.templateFor role := by
  rcases Generator.mem_plannedFiles h with
    ⟨a, _, rfl⟩ | ⟨x, _, context, rfl⟩ | ⟨c, _, rfl⟩ | rfl
  · exact ⟨aggregateRole, by decide, rfl⟩
  · have hrole : ∀ k : Kind, k.text ∈ templateRoles := by
      intro k
      cases k <;> decide
    exact ⟨x.kind.text, hrole x.kind, rfl⟩
  · exact ⟨subModuleRole, by decide, rfl⟩
  · exact ⟨rootModuleRole, by decide, rfl⟩

variable {ρ σ : Type}

/-- **A walk asks for no template but those its generator requires**, whatever renders them. -/
theorem calls_required {g : Generator} {required : List Data}
    (hrequired : g.requiredTemplates = .ok required) (render : Renderer ρ) (sink : Sink σ) {m : Model}
    (h : m.Fresh) (e : ρ) (s : σ) :
    ∀ call ∈ g.calls render sink m e s, call.template ∈ required := by
  intro call hcall
  obtain ⟨_, _, _, hcalls, _⟩ := generate_recording g render sink h e s
  have hplanned : some call ∈ (g.plannedFiles m).map PlannedFile.call? :=
    hcalls.subset (List.mem_map_of_mem hcall)
  obtain ⟨f, hf, hcall⟩ := List.mem_map.mp hplanned
  obtain ⟨role, hrole, htemplate⟩ := template_of_planned hf
  obtain ⟨template, hmem, hgives⟩ := exists_mem_of_mapM hrequired hrole
  have heq := htemplate.symm.trans (call?_eq_some hcall).1
  rw [hgives] at heq
  cases heq
  exact hmem

/-! ## 3. Documents that fail -/

/-- A run that ends with an error of a template has asked for it. -/
theorem RunEnd.asked {answer : RenderCall → Except Failure String} {calls : List RenderCall}
    {cause : TemplateError} (h : RunEnd answer calls (some (.template cause))) :
    ∃ call ∈ calls, answer call = .error (.template cause) := by
  cases h with
  | answered _ ho => exact absurd rfl (ho cause)
  | failed _ hcall => exact ⟨_, List.mem_append_right _ List.mem_cons_self, hcall⟩

/-- A template that was read cannot be rendered. -/
def NotRendered (required : List Data) (cause : TemplateError) : Prop :=
  ∃ n t context fault, .text n ∈ required ∧ cause = .notRendered (some n) t context fault

namespace Pipeline

variable {p q : Pipeline Engine} {required : List Data} {tree : FileTree}

/-- An engine with templates in use answers calls for them by rendering. -/
theorem notRendered_of_answer {e : Engine} {call : RenderCall}
    {cause : TemplateError} (hread : e.HasRead required) (hcall : call.template ∈ required)
    (h : e.answer tree call = .error (.template cause)) : NotRendered required cause := by
  obtain ⟨n, t, hname, ht⟩ := hread call.template hcall
  have hgiven : e.given tree n = .ok t := by
    unfold Engine.given
    rw [ht]
  rw [answer_eq hgiven hname] at h
  obtain ⟨fault, _, heq⟩ := except_mapError_eq_error.mp h
  cases heq
  exact ⟨n, t, call.context, fault, hname ▸ hcall, rfl⟩

/-- **An attempt fails in its templates only when one is rendered.** -/
theorem attempt_notRendered (hrequired : p.generator.requiredTemplates = .ok required)
    (hrender : p.render = engineRenderer tree) (hread : p.engine.HasRead required) (sink : Sink σ)
    (d : InputDocument) (s : σ) {cause : TemplateError}
    (h : (p.attempt sink d s).failure = some (.template cause)) :
    NotRendered required cause := by
  have hend := p.attemptResult_attempt sink d s
  generalize p.attempt sink d s = a at hend h
  cases hend with
  | unread hf =>
      cases h
      cases readDocument_failsAs _ _ _ hf
  | invalid _ hf =>
      cases h
      cases ofDocument_failsAs _ _ _ hf
  | generated => cases h
  | failed _ hm ho =>
      cases h
      have hfresh := fresh_ofDocument hm
      have hanswers := generate_answers p.generator (engineRenderer_answers tree p.engine) sink hfresh
        (.refl tree p.engine) s
      rw [← hrender, ho] at hanswers
      obtain ⟨call, hcall, hanswer⟩ := hanswers.asked
      exact notRendered_of_answer hread
        (calls_required hrequired _ sink hfresh p.engine s call hcall) hanswer

/-- The failure of an outcome is that of an attempt. -/
theorem attempt_of_process {sink : Sink σ} {w v : Stream ρ σ} {item : Option InputDocument}
    {o : Outcome} {f : Failure} (h : w.process sink item = (v, .ok o)) (ho : o.failure = some f) :
    ∃ (τ : Type) (other : Sink τ) (d : InputDocument) (t : τ),
      (w.pipeline.attempt other d t).failure = some f := by
  cases item with
  | none =>
      cases h
      cases ho
  | some d =>
      cases ha : w.pipeline.config.atomic.isTrue with
      | false =>
          rw [Stream.process_direct ha] at h
          have hoc : (w.pipeline.processDirectly sink d w.sink).2.2 = o :=
            Except.ok.inj (congrArg Prod.snd h)
          refine ⟨_, recordingSink sink, d, ⟨w.sink, []⟩, ?_⟩
          rw [← Pipeline.processDirectly_failure, hoc]
          exact ho
      | true =>
          rw [Stream.process_atomic ha] at h
          have hoc : (w.pipeline.processAtomically sink d w.sink).2.2 = .ok o := congrArg Prod.snd h
          refine ⟨_, bufferedSink, d, (⟨⟨w.sink, []⟩, []⟩ : Buffered (Recorded σ)), ?_⟩
          exact (Pipeline.processAtomically_failure hoc).symm.trans ho

/-- **A pipeline has read every template its generator requires.** -/
theorem hasRead_ofEngine {c : Config} {e : Engine} (h : ofEngine tree c e = .ok p) : ∃ required,
    p.generator.requiredTemplates = .ok required ∧ p.render = engineRenderer tree ∧
      p.engine.HasRead required := by
  obtain ⟨required, _, hrequired, hread, hrender⟩ := ofEngine_eq_ok.mp h
  obtain ⟨_, read, _, _, _, hcompiled, _, hengine⟩ :=
    readTemplates_eq_ok.mp (except_mapError_eq_ok.mp hread)
  have hnone : e.HasRead [] := fun _ hname => absurd hname List.not_mem_nil
  refine ⟨required, hrequired, hrender, ?_⟩
  rw [hengine]
  exact Engine.hasRead_compileAll (Prod.ext rfl hcompiled) hnone

/-- A pipeline that was used requires the same templates, renders them in the same way and has them in
    use. -/
theorem Later.hasRead (h : p.Later q) (hrequired : p.generator.requiredTemplates = .ok required)
    (hrender : p.render = engineRenderer tree) (hread : p.engine.HasRead required) :
    q.generator.requiredTemplates = .ok required ∧ q.render = engineRenderer tree ∧
      q.engine.HasRead required := by
  obtain ⟨hgenerator, hsame⟩ := h.settings
  refine ⟨?_, hsame.trans hrender, h.engine_induct (I := fun e => e.HasRead required) ?_ hread⟩
  · rw [hgenerator]
    exact hrequired
  · intro e name context he
    rw [hrender]
    exact he.render tree name context

end Pipeline

/-- **No document of a stream fails because a template cannot be loaded**: by induction over the run,
    every item is processed by a pipeline that has its templates in use. -/
theorem Stream.Run.notRendered {p : Pipeline Engine} {required : List Data} {tree : FileTree}
    (hrequired : p.generator.requiredTemplates = .ok required)
    (hrender : p.render = engineRenderer tree) (hread : p.engine.HasRead required)
    {sink : Sink σ} {w v : Stream Engine σ} {items : List (Option InputDocument)} {os : List Outcome}
    (h : Run sink w items os v) (hw : p.Later w.pipeline) : ∀ o ∈ os, ∀ cause,
      o.failure = some (.template cause) → NotRendered required cause := by
  induction h with
  | done => exact fun o ho => absurd ho List.not_mem_nil
  | @next w v u item items o os first _ ih =>
      have hnext := hw.processed sink item
      rw [first] at hnext
      refine List.forall_mem_cons.mpr ⟨fun cause ho => ?_, ih hnext⟩
      obtain ⟨τ, other, d, t, hfailure⟩ := Pipeline.attempt_of_process first ho
      obtain ⟨hneeds, hsame, hhas⟩ := hw.hasRead hrequired hrender hread
      exact Pipeline.attempt_notRendered hneeds hsame hhas other d t hfailure

/-! ## 4. Templates that are missing -/

/-- The failures of templates that cannot be read, and faults. -/
def Failure.ofLoading : Failure → Bool
  | template (.notFound _) => true
  | template (.invalid _ _) => true
  | fault _ => true
  | _ => false

namespace Engine

variable {tree : FileTree}

theorem load_failsAs (e : Engine) (n : String) : FailsAs (·.ofLoading = true) (e.load tree n) := by
  unfold load
  split
  · exact .error rfl
  · exact .error rfl
  · split
    · exact .ok _
    · exact .error rfl
    · exact .error rfl

theorem nameOf_failsAs (e : Engine) (name : Data) : FailsAs (·.ofLoading = true) (e.nameOf name) := by
  unfold nameOf
  split
  · exact .ok _
  · split
    · exact .error rfl
    · split
      · exact .error rfl
      · split <;> exact .error rfl

/-- **A template that cannot be read is not found or not valid**, or there is a fault. -/
theorem compile_failsAs (e : Engine) (name : Data) :
    FailsAs (·.ofLoading = true) (e.compile tree name).2 := by
  rw [compile_result]
  refine (nameOf_failsAs e name).bind fun n => ?_
  unfold given
  split
  · exact .ok _
  · split
    · exact .ok _
    · exact (load_failsAs e n).map _

theorem compileAll_failsAs : ∀ (required done : List Data) (e : Engine),
    FailsAs (·.ofLoading = true) (compileAll tree e required done).2
  | [], done, _ => .ok done
  | name :: rest, done, e => by
      have hname : FailsAs (·.ofLoading = true) (e.compile tree name).2 := compile_failsAs e name
      unfold compileAll
      split
      · exact compileAll_failsAs rest done e
      · rcases hc : e.compile tree name with ⟨next, f | t⟩ <;> rw [hc] at hname
        · exact .error (hname f rfl)
        · exact compileAll_failsAs rest _ next

end Engine

namespace Pipeline

variable {tree : FileTree} {e : Engine} {texts names : List String}

/-- The names among some texts that the engine has no source for, each once, at the place of its first
    occurrence. -/
def absent (tree : FileTree) (e : Engine) (texts : List String) : List String :=
  texts.eraseDups.filter fun n => e.source? tree n = .ok none

theorem any_equal_text (n : String) : ∀ seen : List String,
    (seen.map Data.text).any (fun d => d.equal (.text n)) = seen.contains n
  | [] => rfl
  | m :: rest => by
      have hhead : Data.equal (.text m) (.text n) = (n == m) := by
        rw [Bool.beq_comm]
        simp only [Data.equal, Data.equalScalar]
      rw [List.map_cons, List.any_cons, List.contains_cons, hhead, any_equal_text n rest]

/-- One text more has been seen. -/
theorem filter_unseen (texts seen : List String) (n : String) :
    (texts.filter fun m => !(seen ++ [n]).contains m) =
      (texts.filter fun m => !seen.contains m).filter fun m => !m == n := by
  rw [List.filter_filter]
  refine List.filter_congr fun m _ => ?_
  rw [List.contains_append, List.contains_cons, List.contains_nil, Bool.or_false, Bool.not_or,
    Bool.and_comm]

/-- Of some texts each is listed once. -/
theorem distinct_texts : ∀ texts seen : List String,
    distinct (texts.map .text) (seen.map .text) =
      .ok ((seen ++ (texts.filter fun n => !seen.contains n).eraseDups).map .text)
  | [], seen => by
      rw [List.filter_nil, List.eraseDups_nil, List.append_nil]
      rfl
  | n :: rest, seen => by
      rw [List.map_cons]
      unfold distinct
      rw [any_equal_text]
      cases hn : seen.contains n with
      | true =>
          rw [List.filter_cons_of_neg (by rw [hn]; decide)]
          exact distinct_texts rest seen
      | false =>
          have hnext := distinct_texts rest (seen ++ [n])
          rw [filter_unseen, List.append_assoc, List.map_append] at hnext
          rw [List.filter_cons_of_pos (by rw [hn]; rfl), List.eraseDups_cons]
          exact hnext

theorem provides_eq (n : String) : e.provides tree (.text n) =
    ((e.source? tree n).mapError Failure.fault).map Option.isSome := by
  unfold Engine.provides Engine.nameOf
  dsimp only
  cases e.source? tree n <;> rfl

theorem provides_text {n : String} {b : Bool} : e.provides tree (.text n) = .ok b ↔
    ∃ found, e.source? tree n = .ok found ∧ found.isSome = b := by
  rw [provides_eq, except_map_eq_ok]
  simp only [except_mapError_eq_ok]

theorem missing_cons {name : Data} {rest gone : List Data} :
    missing tree e (name :: rest) = .ok gone ↔ ∃ b others, e.provides tree name = .ok b ∧
      missing tree e rest = .ok others ∧ gone = if b then others else name :: others := by
  rw [missing, except_bind_eq_ok]
  constructor
  · rintro ⟨b, hb, h⟩
    obtain ⟨others, hothers, h⟩ := except_bind_eq_ok.mp h
    exact ⟨b, others, hb, hothers, (Except.ok.inj h).symm⟩
  · rintro ⟨b, others, hb, hothers, rfl⟩
    exact ⟨b, hb, except_bind_eq_ok.mpr ⟨others, hothers, rfl⟩⟩

/-- What is found to be missing among some texts. -/
theorem missing_texts : ∀ {texts : List String} {gone : List Data},
    missing tree e (texts.map .text) = .ok gone ↔
      (∀ n ∈ texts, ∃ found, e.source? tree n = .ok found) ∧
        gone = (texts.filter fun n => e.source? tree n = .ok none).map .text
  | [], gone => by
      constructor
      · intro h
        cases h
        exact ⟨fun n hn => absurd hn List.not_mem_nil, rfl⟩
      · rintro ⟨_, rfl⟩
        rfl
  | n :: rest, gone => by
      have hfilter : ∀ {found}, e.source? tree n = .ok found →
          ((n :: rest).filter fun n => e.source? tree n = .ok none).map Data.text =
            if found.isSome then (rest.filter fun n => e.source? tree n = .ok none).map Data.text
            else .text n :: (rest.filter fun n => e.source? tree n = .ok none).map Data.text := by
        intro found hs
        rw [List.filter_cons, hs]
        cases found <;> rfl
      rw [List.map_cons, missing_cons, List.forall_mem_cons]
      constructor
      · rintro ⟨b, others, hb, hothers, rfl⟩
        obtain ⟨found, hs, rfl⟩ := provides_text.mp hb
        obtain ⟨hall, rfl⟩ := missing_texts.mp hothers
        exact ⟨⟨⟨found, hs⟩, hall⟩, (hfilter hs).symm⟩
      · rintro ⟨⟨⟨found, hs⟩, hall⟩, rfl⟩
        exact ⟨_, _, provides_text.mpr ⟨found, hs, rfl⟩, missing_texts.mpr ⟨hall, rfl⟩, hfilter hs⟩

/-- Every name that is passed over equals one that is listed. -/
theorem distinct_covers : ∀ {required seen ds : List Data}, distinct required seen = .ok ds →
    (∀ x ∈ seen, x ∈ ds) ∧ ∀ x ∈ required, x ∈ ds ∨ ∃ d ∈ ds, d.equal x = true
  | [], seen, ds, h => by
      cases h
      exact ⟨fun x hx => hx, fun x hx => absurd hx List.not_mem_nil⟩
  | name :: rest, seen, ds, h => by
      unfold distinct at h
      split at h
      · cases h
      · split at h
        · rename_i hany
          obtain ⟨hseen, hrest⟩ := distinct_covers h
          obtain ⟨d, hd, heq⟩ := List.any_eq_true.mp hany
          exact ⟨hseen, List.forall_mem_cons.mpr ⟨Or.inr ⟨d, hseen d hd, heq⟩, hrest⟩⟩
        · obtain ⟨hseen, hrest⟩ := distinct_covers h
          refine ⟨fun x hx => hseen x (List.mem_append_left _ hx), List.forall_mem_cons.mpr ⟨?_, hrest⟩⟩
          exact Or.inl (hseen name (List.mem_append_right _ List.mem_cons_self))

/-- What is not missing is there. -/
theorem provides_of_missing : ∀ {ds gone : List Data}, missing tree e ds = .ok gone →
    ∀ d ∈ ds, d ∈ gone ∨ e.provides tree d = .ok true
  | [], _, _ => fun d hd => absurd hd List.not_mem_nil
  | name :: rest, gone, h => by
      obtain ⟨b, others, hb, hothers, rfl⟩ := missing_cons.mp h
      have hrest := provides_of_missing hothers
      cases b with
      | true => exact List.forall_mem_cons.mpr ⟨Or.inr hb, hrest⟩
      | false =>
          refine List.forall_mem_cons.mpr ⟨Or.inl List.mem_cons_self, fun d hd => ?_⟩
          exact (hrest d hd).imp_left (List.mem_cons_of_mem name)

/-- Only a text can be found. -/
theorem text_of_provides {d : Data} (h : e.provides tree d = .ok true) : ∃ n, d = .text n := by
  unfold Engine.provides at h
  split at h
  · cases h
  · cases h
  · rename_i n hn
    exact ⟨n, Engine.nameOf_eq_ok hn⟩

theorem listed_eq_ok {d : Data} {n : String} : listed d = .ok n ↔ d = .text n := by
  constructor
  · intro h
    unfold listed at h
    split at h
    · exact congrArg Data.text (Except.ok.inj h)
    · cases h
  · rintro rfl
    rfl

theorem listed_texts {ds : List Data} {ns : List String} :
    ds.mapM listed = .ok ns ↔ ds = ns.map .text := by
  rw [mapM_eq_ok]
  constructor
  · intro h
    induction h with
    | nil => rfl
    | cons hd _ ih => rw [listed_eq_ok.mp hd, ih, List.map_cons]
  · rintro rfl
    rw [List.forall₂_map_left_iff]
    exact List.forall₂_same.mpr fun _ _ => rfl

theorem exists_texts : ∀ {ds : List Data}, (∀ d ∈ ds, ∃ n, d = .text n) →
    ∃ texts : List String, ds = texts.map .text
  | [], _ => ⟨[], rfl⟩
  | d :: rest, h => by
      obtain ⟨⟨n, rfl⟩, hrest⟩ := List.forall_mem_cons.mp h
      obtain ⟨texts, rfl⟩ := exists_texts hrest
      exact ⟨n :: texts, rfl⟩

/-- If the missing names can be listed, all names are texts. -/
theorem texts_of_missing {required ds gone : List Data} (hds : distinct required [] = .ok ds)
    (hgone : missing tree e ds = .ok gone) (hnames : gone.mapM listed = .ok names) :
    ∃ texts : List String, required = texts.map .text := by
  have hgone' := listed_texts.mp hnames
  have htext : ∀ d ∈ ds, ∃ n, d = .text n := by
    intro d hd
    rcases provides_of_missing hgone d hd with hmem | hfound
    · rw [hgone'] at hmem
      obtain ⟨n, _, rfl⟩ := List.mem_map.mp hmem
      exact ⟨n, rfl⟩
    · exact text_of_provides hfound
  refine exists_texts fun x hx => ?_
  rcases (distinct_covers hds).2 x hx with hmem | ⟨d, hd, heq⟩
  · exact htext x hmem
  · obtain ⟨n, rfl⟩ := htext d hd
    exact ⟨n, Engine.equal_text heq⟩

theorem distinct_eraseDups (texts : List String) :
    distinct (texts.map .text) [] = .ok (texts.eraseDups.map .text) := by
  have hall := distinct_texts texts []
  have hnone : (texts.filter fun n => !([] : List String).contains n) = texts :=
    List.filter_eq_self.mpr fun _ _ => rfl
  rw [hnone] at hall
  exact hall

/-- What is found to be missing when each of some texts is looked for once. -/
theorem missing_eraseDups {texts : List String} {gone : List Data} :
    missing tree e (texts.eraseDups.map .text) = .ok gone ↔
      (∀ n ∈ texts, ∃ found, e.source? tree n = .ok found) ∧
        gone = (absent tree e texts).map .text := by
  rw [missing_texts]
  simp only [List.mem_eraseDups]
  rfl

theorem missing_failsAs (ds : List Data) : FailsAs (·.ofLoading = true) (missing tree e ds) := by
  induction ds with
  | nil => exact .ok []
  | cons name rest ih =>
      have hname : FailsAs (·.ofLoading = true) (e.provides tree name) := by
        unfold Engine.provides
        split
        · exact .ok false
        · rename_i f _ hf
          exact .error (Engine.nameOf_failsAs e name f hf)
        · split
          · exact .ok _
          · exact .error rfl
      exact hname.bind fun _ => ih.bind fun _ => .ok _

/-- **Templates are not read** because one of them cannot be, or because some of them are missing. -/
theorem readTemplates_failsAs (required : List Data) :
    FailsAs (fun f => f.ofLoading = true ∨ ∃ ds gone names, distinct required [] = .ok ds ∧
      missing tree e ds = .ok gone ∧ gone ≠ [] ∧ gone.mapM listed = .ok names ∧
      f = .template (.missing names)) (readTemplates tree e required) := by
  refine .bind_of_ok (.mapError fun _ => Or.inl rfl) fun ds hds =>
    .bind_of_ok (fun f h => Or.inl (missing_failsAs ds f h)) fun gone hgone => ?_
  cases gone with
  | nil =>
      exact .bind (fun f h => Or.inl (Engine.compileAll_failsAs required [] e f h)) fun read =>
        .bind (.mapError fun _ => Or.inl rfl) fun _ => .ok _
  | cons d rest =>
      refine .bind_of_ok (.mapError fun _ => Or.inl rfl) fun listing hlisting => .error (Or.inr ?_)
      exact ⟨ds, d :: rest, listing, except_mapError_eq_ok.mp hds, hgone, List.cons_ne_nil d rest,
        except_mapError_eq_ok.mp hlisting, rfl⟩

/-- **Templates are reported as missing** if all names are texts that can be looked for and some of
    them have no source; then these are named, each once and in order, whatever the other templates
    are. -/
theorem readTemplates_missing_iff {required : List Data} :
    readTemplates tree e required = .error (.template (.missing names)) ↔
      ∃ texts : List String, required = texts.map .text ∧
        (∀ n ∈ texts, ∃ found, e.source? tree n = .ok found) ∧
        names = absent tree e texts ∧ names ≠ [] := by
  constructor
  · intro h
    rcases readTemplates_failsAs _ _ h with hloading | ⟨ds, gone, listing, hds, hgone, hne, hlisting, heq⟩
    · cases hloading
    · cases heq
      obtain ⟨texts, rfl⟩ := texts_of_missing hds hgone hlisting
      obtain rfl := Except.ok.inj ((distinct_eraseDups texts).symm.trans hds)
      obtain ⟨hall, habsent⟩ := missing_eraseDups.mp hgone
      have hgone' := listed_texts.mp hlisting
      have hnames : names = absent tree e texts :=
        List.map_injective_iff.mpr (fun _ _ h => Data.text.inj h) (hgone'.symm.trans habsent)
      refine ⟨texts, rfl, hall, hnames, ?_⟩
      rintro rfl
      exact hne hgone'
  · rintro ⟨texts, rfl, hall, rfl, hne⟩
    unfold readTemplates
    rw [distinct_eraseDups]
    have hgone := missing_eraseDups.mpr ⟨hall, rfl⟩
    obtain ⟨n, rest, hcons⟩ := List.exists_cons_of_ne_nil hne
    have hlisting : ((absent tree e texts).map Data.text).mapM listed = .ok (absent tree e texts) :=
      listed_texts.mpr rfl
    rw [hcons] at hgone hlisting ⊢
    show (missing tree e (texts.eraseDups.map .text) >>= _) = _
    rw [hgone]
    show (((n :: rest).map Data.text).mapM listed).mapError Failure.fault >>= _ = _
    rw [hlisting]
    rfl

end Pipeline

/-! ## 5. Main result -/

/-- What a generator fails for is not among the templates. -/
def Failure.ofGenerator : Failure → Bool
  | config (.templates _) => false
  | _ => true

theorem policyFor_failsAs (c : Config) (kind : Option Kind) :
    FailsAs (·.ofGenerator = true) (c.policyFor kind) := by
  refine .bind (fun f h => ?_) fun o => ?_
  · obtain ⟨problem, h, rfl⟩ := except_mapError_eq_error.mp h
    unfold Config.optionsFor at h
    split at h <;> cases h
    rfl
  · split
    · exact .ok _
    · exact .error rfl

theorem generator_failsAs (folder : List String) (c : Config) :
    FailsAs (·.ofGenerator = true) (Generator.ofConfig folder c) :=
  (policyFor_failsAs c none).bind fun _ => (policyFor_failsAs c _).bind fun _ =>
    (policyFor_failsAs c _).bind fun _ => (policyFor_failsAs c _).bind fun _ => .ok _

theorem requiredTemplates_failsAs (g : Generator) :
    FailsAs (·.ofGenerator = true) g.requiredTemplates := by
  refine .mapM (fun role => ?_) templateRoles
  unfold Config.templateFor
  split
  · split
    · exact .ok _
    · exact .error rfl
  · exact .error rfl

namespace Pipeline

variable {tree : FileTree} {e : Engine} {c : Config} {names : List String}

/-- Some of the templates that a generator of the configuration requires have no source. -/
def Misses (tree : FileTree) (c : Config) (e : Engine) (names : List String) : Prop :=
  ∃ g, ∃ texts : List String, Generator.ofConfig tree.workingFolder c = .ok g ∧
    g.requiredTemplates = .ok (texts.map .text) ∧
    (∀ n ∈ texts, ∃ found, e.source? tree n = .ok found) ∧
    names = absent tree e texts ∧ names ≠ []

/-- **A pipeline fails for missing templates** exactly if some are missing. -/
theorem ofEngine_missing_iff :
    ofEngine tree c e = .error (.config (.templates (.missing names))) ↔ Misses tree c e names := by
  constructor
  · have hall : FailsAs (fun f => f = .config (.templates (.missing names)) → Misses tree c e names)
        (ofEngine tree c e) := by
      refine .bind_of_ok (fun f hf heq => ?_) fun g hg => .bind_of_ok (fun f hf heq => ?_)
        fun required hrequired => .bind (fun f hf heq => ?_) fun _ => .ok _
      · subst heq
        cases generator_failsAs _ _ _ hf
      · subst heq
        cases requiredTemplates_failsAs _ _ hf
      · subst heq
        obtain ⟨f, hf, heq⟩ := except_mapError_eq_error.mp hf
        have hmissing : f = .template (.missing names) := by
          rcases readTemplates_failsAs required f hf with hloading | ⟨_, _, _, _, _, _, _, rfl⟩
          · unfold Failure.ofSetup at heq
            split at heq
            · cases heq
              cases hloading
            · rw [heq] at hloading
              cases hloading
          · cases heq
            rfl
        obtain ⟨texts, rfl, hall⟩ := readTemplates_missing_iff.mp (hmissing ▸ hf)
        exact ⟨g, texts, hg, hrequired, hall⟩
    exact fun h => hall _ h rfl
  · rintro ⟨g, texts, hg, hrequired, hall⟩
    have hread := readTemplates_missing_iff.mpr ⟨texts, rfl, hall⟩
    unfold ofEngine
    rw [hg]
    show (g.requiredTemplates >>= _) = _
    rw [hrequired]
    show ((readTemplates tree e (texts.map .text)).mapError Failure.ofSetup >>= _) = _
    rw [hread]
    rfl

/-- A failure that does not become one of missing templates. -/
def NoneMissing (f : Failure) : Prop := ∀ names, f.ofSetup ≠ .config (.templates (.missing names))

/-- An engine that a configuration asks for is not refused for missing templates. -/
theorem engineOf_failsAs (tree : FileTree) (c : Config) : FailsAs NoneMissing (engineOf tree c) := by
  have hfault : ∀ {α : Type} (x : Except Fault α), FailsAs NoneMissing (x.mapError Failure.fault) :=
    fun x => .mapError fun fault names h => by cases h
  have hpath : ∀ x : Data, FailsAs NoneMissing (Engine.pathOf x) := by
    intro x
    unfold Engine.pathOf
    split
    · exact .ok _
    · exact .error fun names h => by cases h
  unfold engineOf Engine.ofSettings
  dsimp only
  split
  on_goal 1 =>
    refine (hpath _).bind fun p => (hfault _).bind fun there => ?_
    split
    on_goal 1 => exact .error fun names h => by cases h
    refine .bind (.ok [p]) fun own => ?_
  on_goal 2 => refine .bind (.ok []) fun own => ?_
  -- with the folder or without one, the set is looked for in one way
  all_goals
    split
    · refine (hpath _).bind fun q => (hfault _).bind fun there => ?_
      split
      · exact .ok _
      · split
        · exact (hfault _).bind fun set => .error fun names h => by cases h
        · exact .ok _
    · exact .ok _

/-- A pipeline of a configuration is one over the engine that the configuration asks for, or there is no
    such engine. -/
theorem ofConfig_missing_iff :
    ofConfig tree c = .error (.config (.templates (.missing names))) ↔
      ∃ e, engineOf tree c = .ok e ∧ Misses tree c e names := by
  unfold ofConfig
  cases he : engineOf tree c with
  | error f =>
      refine iff_of_false (fun h => ?_) (by rintro ⟨e, heq, _⟩; cases heq)
      exact engineOf_failsAs tree c f he names (Except.error.inj h)
  | ok e =>
      have heq : (∃ e', Except.ok (ε := Failure) e = .ok e' ∧ Misses tree c e' names) ↔
          Misses tree c e names :=
        ⟨fun ⟨_, h, hm⟩ => by cases h; exact hm, fun hm => ⟨e, rfl, hm⟩⟩
      rw [heq]
      exact ofEngine_missing_iff

/-- **What is checked when a pipeline is set up is enough.** A pipeline over any engine has read all
    templates its generator requires, and stays so whatever it processes. A walk asks for no other
    template, and no document of a run fails because a template cannot be loaded, only because one of the
    required ones cannot be rendered. A pipeline that is not set up because templates are missing names
    each required template without a source once, in the order of their first occurrence, whether the
    other ones are valid or not. All of this holds of pipelines over the configured engine, too. -/
theorem ofEngine_checked (tree : FileTree) (c : Config) :
    (∀ e p, ofEngine tree c e = .ok p → ∃ required,
      p.generator.requiredTemplates = .ok required ∧
      ∀ q, p.Later q → q.engine.HasRead required ∧ ∀ {σ : Type} (sink : Sink σ) (s : σ),
        (∀ document source m, Model.ofDocument document source = .ok m →
          ∀ call ∈ q.generator.calls q.render sink m q.engine s,
            call.template ∈ required) ∧
        ∀ items os v, Stream.Run sink (.start q s) items os v → ∀ o ∈ os, ∀ cause,
          o.failure = some (.template cause) → NotRendered required cause) ∧
    (∀ e names, ofEngine tree c e = .error (.config (.templates (.missing names))) ↔
      Misses tree c e names) ∧
    (∀ names, (Failure.config (.templates (.missing names))).message =
      "Missing template(s): " ++ ", ".intercalate names) ∧
    (∀ p, ofConfig tree c = .ok p ↔ ∃ e, engineOf tree c = .ok e ∧ ofEngine tree c e = .ok p) ∧
    ∀ names, ofConfig tree c = .error (.config (.templates (.missing names))) ↔
      ∃ e, engineOf tree c = .ok e ∧ Misses tree c e names := by
  refine ⟨fun e p hp => ?_, fun e names => ofEngine_missing_iff, fun names => rfl,
    fun p => ofConfig_eq_ok, fun names => ofConfig_missing_iff⟩
  obtain ⟨required, hrequired, hrender, hread⟩ := hasRead_ofEngine hp
  refine ⟨required, hrequired, fun q hq => ?_⟩
  obtain ⟨hneeds, _, hhas⟩ := hq.hasRead hrequired hrender hread
  refine ⟨hhas, fun {σ} sink s => ⟨fun document source m hm => ?_, fun items os v hrun => ?_⟩⟩
  · exact calls_required hneeds _ sink (fresh_ofDocument hm) q.engine s
  · exact hrun.notRendered hrequired hrender hread hq

/-- An engine with a template that is not valid, a good one and no others. -/
def partialEngine : Engine :=
  .make ⟨[], []⟩ [] [("aggregate.j2", "\x7b% if"), ("command.j2", "command")] (.text "utf-8")

/-- The templates that the standard settings name. -/
def standardTexts : List String :=
  ["aggregate.j2", "command.j2", "event.j2", "fault.j2", "module.j2", "module.j2"]

theorem misses_partial :
    Misses ⟨[], []⟩ Config.standard partialEngine ["event.j2", "fault.j2", "module.j2"] := by
  refine ⟨⟨.standard, [], ⟨".js", "aggregates", "Aggregate", false⟩,
      ⟨".js", "commands", "Command", false⟩, ⟨".js", "events", "Event", false⟩,
      ⟨".js", "faults", "Fault", false⟩⟩, standardTexts, rfl, rfl, fun n hn => ?_, by decide +kernel,
    List.cons_ne_nil _ _⟩
  refine exists_ok_of_isSome ?_
  revert n
  decide +kernel

theorem ofEngine_checked_partial :
    (∃ p required, ofEngine ⟨[], []⟩ Config.standard plainEngine = .ok p ∧
      p.generator.requiredTemplates = .ok required ∧ p.engine.HasRead required) ∧
    ∃ f, ofEngine ⟨[], []⟩ Config.standard partialEngine = .error f ∧
      f.message = "Missing template(s): event.j2, fault.j2, module.j2" := by
  obtain ⟨hsufficient, hmissing, hmessage, -⟩ := ofEngine_checked ⟨[], []⟩ Config.standard
  constructor
  · have hset : (ofEngine ⟨[], []⟩ Config.standard plainEngine).toOption.isSome = true := by
      decide +kernel
    obtain ⟨p, hp⟩ := exists_ok_of_isSome hset
    obtain ⟨required, hrequired, hlater⟩ := hsufficient plainEngine p hp
    exact ⟨p, required, hp, hrequired, (hlater p .now).1⟩
  · exact ⟨_, (hmissing partialEngine _).mpr misses_partial, hmessage _⟩

end Pipeline

end DomainGen
