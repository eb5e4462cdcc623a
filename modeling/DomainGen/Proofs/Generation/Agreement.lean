import DomainGen.Proofs.Generation.Simulation
import DomainGen.Proofs.Sink.Acceptance

/-!
# Walks that agree

A walk depends on what renders and on its sink only through their answers. Two walks over one model,
each with a renderer and a sink of its own, therefore end alike as long as both renderers and both
sinks give the same answers in states that belong together. Sinks may also part at some file: then
nothing is said of the answers behind it, but that they have parted can be seen at the end.

A sink that is watched does what it did before. What it has taken so far, and whether it has refused a
file, can then be read off at any time.

* `Renderer.Agree`, `Sink.Agree` : the same answers in related states; `Sink.AgreeUntil` : the same
  answers until the sinks part;
* `Progress.Related` : two runs have placed the same, in related states; `takeStep_agreeUntil`,
  `takeSteps_agreeUntil` : steps keep them so and fail alike;
* `generate_agreeUntil` : **generating with renderers and sinks that agree ends alike**, unless the
  sinks have parted;
* `watchingSink` : a sink under watch; `watching_agree` : **watching changes no answer**;
* `watching_agreeUntil` : a sink that refuses nothing and any other one take the same files, in this
  order, until the other one refuses a file.
-/

namespace DomainGen

variable {ρ ρ' σ τ : Type} {R : ρ → ρ' → Prop} {S B : σ → τ → Prop} {render : Renderer ρ}
  {render' : Renderer ρ'} {sink : Sink σ} {other : Sink τ}

/-- Two renderers give the same texts or fail alike in related states, and stay in them. -/
def Renderer.Agree (R : ρ → ρ' → Prop) (render : Renderer ρ) (render' : Renderer ρ') : Prop :=
  ∀ ⦃e e'⦄, R e e' → ∀ template context,
    R (render e template context).1 (render' e' template context).1 ∧
      (render e template context).2 = (render' e' template context).2

/-- Two sinks refuse the same files in related states, and stay in them. -/
def Sink.Agree (S : σ → τ → Prop) (sink : Sink σ) (other : Sink τ) : Prop :=
  ∀ ⦃s t⦄, S s t → ∀ f, S (sink s f).1 (other t f).1 ∧ (sink s f).2 = (other t f).2

/-- Two sinks agree until they part, which no file on either side undoes. -/
structure Sink.AgreeUntil (S B : σ → τ → Prop) (sink : Sink σ) (other : Sink τ) : Prop where
  agree : ∀ {s t}, S s t → ∀ f, B (sink s f).1 (other t f).1 ∨
    S (sink s f).1 (other t f).1 ∧ (sink s f).2 = (other t f).2
  left : ∀ {s t}, B s t → ∀ f, B (sink s f).1 t
  right : ∀ {s t}, B s t → ∀ f, B s (other t f).1

/-- Sinks that agree never part. -/
theorem Sink.Agree.until (h : Sink.Agree S sink other) :
    Sink.AgreeUntil S (fun _ _ => False) sink other where
  agree hst f := Or.inr (h hst f)
  left hb _ := hb
  right hb _ := hb

theorem Renderer.agree_self (render : Renderer ρ) : Renderer.Agree (· = ·) render render := by
  rintro e _ rfl template context
  exact ⟨rfl, rfl⟩

theorem Sink.agree_self (sink : Sink σ) : Sink.Agree (· = ·) sink sink := by
  rintro s _ rfl f
  exact ⟨rfl, rfl⟩

/-- Sinks that refuse nothing go on having the same files. -/
theorem Sink.agree_acceptsAll (ha : sink.AcceptsAll) (hb : other.AcceptsAll)
    {kept : σ → List GeneratedFile} {kept' : τ → List GeneratedFile} (hk : sink.Keeps kept)
    (hk' : other.Keeps kept') : Sink.Agree (fun s t => kept s = kept' t) sink other := by
  intro s t hst f
  have hsink : sink s f = ((sink s f).1, none) := Prod.ext rfl (ha s f)
  have hother : other t f = ((other t f).1, none) := Prod.ext rfl (hb t f)
  refine ⟨(hk.accepted hsink).trans ?_, (ha s f).trans (hb t f).symm⟩
  rw [hk'.accepted hother, hst]

/-- Two runs, each with its own states, have placed the same. -/
structure Progress.Related (R : ρ → ρ' → Prop) (S : σ → τ → Prop) (p : Progress ρ σ)
    (q : Progress ρ' τ) : Prop where
  engine : R p.engine q.engine
  sink : S p.sink q.sink
  placed_eq : p.placed = q.placed

/-! ## 1. Steps -/

section Steps

variable {p : Progress ρ σ} {q : Progress ρ' τ}

theorem Progress.Related.owner?_eq (h : p.Related R S q) (path : String) :
    p.owner? path = q.owner? path := by
  unfold Progress.owner?
  rw [h.placed_eq]

theorem place_agreeUntil (hs : Sink.AgreeUntil S B sink other) (h : p.Related R S q) (item : Item)
    (file : GeneratedFile) :
    B (place sink p item file).1.sink (place other q item file).1.sink ∨
      (place sink p item file).1.Related R S (place other q item file).1 ∧
        (place sink p item file).2 = (place other q item file).2 := by
  have howner := h.owner?_eq file.path
  cases ho : p.owner? file.path with
  | some first =>
      rw [place_taken ho, place_taken (howner.symm.trans ho)]
      exact Or.inr ⟨h, rfl⟩
  | none =>
      have hfile := hs.agree h.sink file
      have ho' := howner.symm.trans ho
      rcases hp : sink p.sink file with ⟨s, _ | fault⟩ <;>
        rcases hq : other q.sink file with ⟨t, _ | fault'⟩ <;>
        rw [hp, hq] at hfile
      · rw [place_accepted ho hp, place_accepted ho' hq]
        exact hfile.imp_right fun hfile =>
          ⟨⟨h.engine, hfile.1, congrArg (· ++ [(item, file)]) h.placed_eq⟩, rfl⟩
      · rw [place_accepted ho hp, place_refused ho' hq]
        exact hfile.imp_right fun hfile => by cases hfile.2
      · rw [place_refused ho hp, place_accepted ho' hq]
        exact hfile.imp_right fun hfile => by cases hfile.2
      · rw [place_refused ho hp, place_refused ho' hq]
        refine hfile.imp_right fun ⟨hstate, hfault⟩ => ⟨⟨h.engine, hstate, h.placed_eq⟩, ?_⟩
        cases hfault
        rfl

theorem rendered_agree (hr : Renderer.Agree R render render') {e : ρ} {e' : ρ'} (he : R e e')
    (f : PlannedFile) :
    R (f.rendered render e).1 (f.rendered render' e').1 ∧
      (f.rendered render e).2 = (f.rendered render' e').2 := by
  unfold PlannedFile.rendered
  cases f.template with
  | error problem => exact ⟨he, rfl⟩
  | ok template =>
      obtain ⟨hstate, hanswer⟩ := hr he template f.context
      dsimp only
      rcases hp : render e template f.context with ⟨a, problem | content⟩ <;>
        rcases hq : render' e' template f.context with ⟨b, problem' | content'⟩ <;>
        rw [hp, hq] at hstate hanswer <;> cases hanswer <;> exact ⟨hstate, rfl⟩

theorem takeStep_agreeUntil (hr : Renderer.Agree R render render')
    (hs : Sink.AgreeUntil S B sink other) (h : p.Related R S q) (st : PlanStep) :
    B (takeStep render sink p st).1.sink (takeStep render' other q st).1.sink ∨
      (takeStep render sink p st).1.Related R S (takeStep render' other q st).1 ∧
        (takeStep render sink p st).2 = (takeStep render' other q st).2 := by
  cases st with
  | lookup t =>
      cases t with
      | ok t => exact Or.inr ⟨h, rfl⟩
      | error problem => exact Or.inr ⟨h, rfl⟩
  | file f =>
      obtain ⟨hstate, hanswer⟩ := rendered_agree hr h.engine f
      rcases hp : f.rendered render p.engine with ⟨e, problem | file⟩ <;>
        rcases hq : f.rendered render' q.engine with ⟨e', problem' | file'⟩ <;>
        rw [hp, hq] at hstate hanswer <;> cases hanswer
      · simp only [takeStep, hp, hq, and_true]
        exact Or.inr ⟨hstate, h.sink, h.placed_eq⟩
      · rw [takeStep_rendered hp, takeStep_rendered hq]
        exact place_agreeUntil (p := { p with engine := e }) (q := { q with engine := e' }) hs
          ⟨hstate, h.sink, h.placed_eq⟩ f.item file

/-- What no file destroys in the sink holds at the end of steps if it holds behind the first. -/
theorem takeSteps_cons_sink {I : σ → Prop} (hI : ∀ s f, I s → I (sink s f).1) {st : PlanStep}
    (rest : List PlanStep) {p : Progress ρ σ} (h : I (takeStep render sink p st).1.sink) :
    I (takeSteps render sink p (st :: rest)).1.sink := by
  unfold takeSteps
  rcases hp : takeStep render sink p st with ⟨next, _ | problem⟩ <;> rw [hp] at h
  · exact takeSteps_sink_induct hI rest h
  · exact h

/-- **Steps keep two runs related**, up to the same failure, unless the sinks part. -/
theorem takeSteps_agreeUntil (hr : Renderer.Agree R render render')
    (hs : Sink.AgreeUntil S B sink other) :
    ∀ (steps : List PlanStep) {p : Progress ρ σ} {q : Progress ρ' τ}, p.Related R S q →
      B (takeSteps render sink p steps).1.sink (takeSteps render' other q steps).1.sink ∨
        (takeSteps render sink p steps).1.Related R S (takeSteps render' other q steps).1 ∧
          (takeSteps render sink p steps).2 = (takeSteps render' other q steps).2
  | [], p, q, h => Or.inr ⟨h, rfl⟩
  | st :: rest, p, q, h => by
      rcases takeStep_agreeUntil hr hs h st with hparted | ⟨hst, hfailed⟩
      · -- either side may go on or stop now: what parted them stays
        left
        exact takeSteps_cons_sink (I := fun s => B s _) (fun _ f hb => hs.left hb f) rest
          (takeSteps_cons_sink (I := fun t => B _ t) (fun _ f hb => hs.right hb f) rest hparted)
      · unfold takeSteps
        rcases hp : takeStep render sink p st with ⟨p', _ | problem⟩ <;>
          rcases hq : takeStep render' other q st with ⟨q', _ | problem'⟩ <;>
          rw [hp, hq] at hst hfailed
        · exact takeSteps_agreeUntil hr hs rest hst
        · cases hfailed
        · cases hfailed
        · exact Or.inr ⟨hst, hfailed⟩

end Steps

/-! ## 2. Walks -/

/-- **Generating a fresh model with renderers and sinks that agree ends alike**, in states that are
    still related, unless the sinks part. -/
theorem generate_agreeUntil (hr : Renderer.Agree R render render')
    (hs : Sink.AgreeUntil S B sink other) (g : Generator) {m : Model} (h : m.Fresh) {e : ρ} {e' : ρ'}
    (he : R e e') {s : σ} {t : τ} (hst : S s t) :
    B (g.generate render sink m e s).sink (g.generate render' other m e' t).sink ∨
      (g.generate render sink m e s).outcome = (g.generate render' other m e' t).outcome ∧
      R (g.generate render sink m e s).engine (g.generate render' other m e' t).engine ∧
      S (g.generate render sink m e s).sink (g.generate render' other m e' t).sink := by
  have hstart : (Progress.start e s).Related R S (Progress.start e' t) := ⟨he, hst, rfl⟩
  have hsteps := takeSteps_agreeUntil hr hs (g.plan m) hstart
  rw [generate_eq_takeSteps g render sink h, generate_eq_takeSteps g render' other h]
  rcases hp : takeSteps render sink (.start e s) (g.plan m) with ⟨p, o⟩
  rcases hq : takeSteps render' other (.start e' t) (g.plan m) with ⟨q, o'⟩
  rw [hp, hq] at hsteps
  refine hsteps.imp_right fun ⟨hrelated, hfailed⟩ => ?_
  obtain rfl : o = o' := hfailed
  refine ⟨?_, hrelated.engine, hrelated.sink⟩
  have hfiles : p.files = q.files := by
    unfold Progress.files
    rw [show p.placed = q.placed from hrelated.placed_eq]
  cases o with
  | none => simp only [Progress.outcome, hfiles]
  | some problem => rfl

end DomainGen

/-! ## 3. Sinks under watch -/

namespace DomainGen

variable {σ τ : Type}

/-- The state of a sink under watch. -/
structure Watched (σ : Type) where
  /-- The state of the sink. -/
  target : σ
  /-- The files it took. -/
  taken : List GeneratedFile
  /-- Has it refused a file? -/
  refused : Bool

/-- A sink that is watched from now on. -/
def Watched.start (s : σ) : Watched σ := ⟨s, [], false⟩

/-- Passes files on and notes what becomes of them. -/
def watchingSink (sink : Sink σ) : Sink (Watched σ) :=
  fun s f => match sink s.target f with
    | (t, none) => (⟨t, s.taken ++ [f], s.refused⟩, none)
    | (t, some e) => (⟨t, s.taken, true⟩, some e)

namespace Sink

variable {sink : Sink σ}

/-- **Watching changes no answer.** -/
theorem watching_agree (sink : Sink σ) :
    Sink.Agree (fun u s => u.target = s) (watchingSink sink) sink := by
  rintro u _ rfl f
  unfold watchingSink
  rcases sink u.target f with ⟨t, _ | e⟩ <;> exact ⟨rfl, rfl⟩

/-- A refusal is not forgotten. -/
theorem refused_watchingSink {u : Watched σ} (h : u.refused = true) (f : GeneratedFile) :
    (watchingSink sink u f).1.refused = true := by
  unfold watchingSink
  rcases sink u.target f with ⟨t, _ | e⟩
  · exact h
  · rfl

/-- What was taken stays. -/
theorem taken_prefix_watchingSink (sink : Sink σ) (u : Watched σ) (f : GeneratedFile) :
    u.taken <+: (watchingSink sink u f).1.taken := by
  unfold watchingSink
  rcases sink u.target f with ⟨t, _ | e⟩
  · exact List.prefix_append _ _
  · exact List.prefix_refl _

/-- Two sinks under watch have taken the same files and refused none. What the second one is now
    comes from taking them. -/
structure TakeAlike (other : Sink τ) (start : τ) (u : Watched σ) (v : Watched τ) : Prop where
  taken_eq : v.taken = u.taken
  refused_eq : u.refused = false ∧ v.refused = false
  takes : other.Takes start u.taken v.target

/-- **A sink that refuses nothing and any other one take the same files** until the other one refuses
    a file. They may also part when the files are no longer the first ones of a list that is given. -/
theorem watching_agreeUntil (ha : sink.AcceptsAll) (other : Sink τ) (start : τ)
    (last : List GeneratedFile) :
    AgreeUntil (TakeAlike other start) (fun u v => v.refused = true ∨ ¬ u.taken <+: last)
      (watchingSink sink) (watchingSink other) where
  agree {u v} h f := by
    obtain ⟨s, haccepted⟩ : ∃ s, sink u.target f = (s, none) := ⟨_, Prod.ext rfl (ha u.target f)⟩
    rcases hf : other v.target f with ⟨t, _ | e⟩
    · refine Or.inr ⟨?_, ?_⟩
      · simp only [watchingSink, haccepted, hf]
        exact ⟨congrArg (· ++ [f]) h.taken_eq, h.refused_eq, h.takes.concat hf⟩
      · simp only [watchingSink, haccepted, hf]
    · refine Or.inl (Or.inl ?_)
      simp only [watchingSink, hf]
  left {u v} hb f := hb.imp_right fun hnot hlast =>
    hnot ((taken_prefix_watchingSink sink u f).trans hlast)
  right {u v} hb f := hb.imp_left fun h => refused_watchingSink h f

end Sink

end DomainGen
