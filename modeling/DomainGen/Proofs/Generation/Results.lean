import DomainGen.Generation.Result
import DomainGen.Proofs.Generation.Interruption

/-!
# What a result says about a walk

A walk knows which files the sink has accepted, however it ends and whatever model it goes over, also
one whose items have names from elsewhere. The result of a walk that cannot fail is made from the
outcome alone, and the outcome of a failed walk has no files.

* `Walking.Preserves` : no action destroys a fact, whether it fails or not; sequences and loops keep
  what their parts keep;
* `preserves_walk` : **what handing a file over keeps, a walk keeps**; `WalkPath` : the paths it hands
  files over under;
* `Walk.Accounts` : **the invariant.** What the sink has accepted since the start of a walk are the
  files that the walk has listed; `accounts_walk` : every walk keeps it;
* `generate_accounts` : what the sink has accepted when generating ends;
* `generateCode_accounts` : a result tells the outcome of every walk, and it lists what the sink has
  accepted unless the walk failed after a file was accepted.
-/

namespace DomainGen

variable {ρ σ α β : Type}

/-! ## 1. Facts that actions keep -/

/-- An action does not destroy a fact about the state, also if it fails. -/
def Walking.Preserves (I : Walk ρ σ → Prop) (act : Walking ρ σ α) : Prop :=
  ∀ w, I w → I (act.runFrom w).2

namespace Walking.Preserves

variable {I : Walk ρ σ → Prop}

theorem pure (x : α) : Preserves I (Pure.pure x : Walking ρ σ α) := fun _ h => h

theorem ofExcept (x : Except Failure α) : Preserves I (Walking.ofExcept x : Walking ρ σ α) := by
  intro w h
  rw [runFrom_ofExcept]
  exact h

theorem bind {act : Walking ρ σ α} {next : α → Walking ρ σ β} (hact : Preserves I act)
    (hnext : ∀ x, Preserves I (next x)) : Preserves I (act >>= next) := by
  intro w h
  have hv := hact w h
  rw [runFrom_bind]
  rcases hr : act.runFrom w with ⟨problem | x, v⟩ <;> rw [hr] at hv
  · exact hv
  · exact hnext x v hv

/-- What follows a result that may be missing is run if there is one. -/
theorem given {x : Except Failure β} {next : β → Walking ρ σ α}
    (h : ∀ y, x = .ok y → Preserves I (next y)) : Preserves I (Walking.ofExcept x >>= next) := by
  intro w hw
  rw [runFrom_bind, runFrom_ofExcept]
  cases x with
  | error f => exact hw
  | ok y => exact h y rfl w hw

/-- What follows a reading of the state is run from the state that was read. -/
theorem read {next : Walk ρ σ → Walking ρ σ α} (h : ∀ w, I w → I ((next w).runFrom w).2) :
    Preserves I (get >>= next) := by
  intro w hw
  rw [runFrom_bind, runFrom_get]
  exact h w hw

theorem forM {body : β → Walking ρ σ Unit} {xs : List β} (h : ∀ x ∈ xs, Preserves I (body x)) :
    Preserves I (xs.forM body) := by
  induction xs with
  | nil => exact pure ()
  | cons x xs ih =>
      obtain ⟨hx, hxs⟩ := List.forall_mem_cons.mp h
      exact hx.bind fun _ => ih hxs

end Walking.Preserves

/-! ## 2. Walks -/

namespace Generator

/-- The paths under which a walk over a model can hand something over. -/
inductive WalkPath (g : Generator) (m : Model) : String → Prop where
  /-- The file of an aggregate. -/
  | aggregate {a} (ha : a ∈ m.aggregates) :
      WalkPath g m (joinPath [g.aggregate.folder, (Names.ofOption a.names).fileName])
  /-- The file of an entity. -/
  | entity {a e} (ha : a ∈ m.aggregates) (he : e ∈ a.entities) :
      WalkPath g m (joinPath [(g.policyOf e.kind).folder, (Names.ofOption e.names).fileName])
  /-- The index of a kind. -/
  | kindIndex {folder path} (h : joinParts [.text folder, g.config.subModuleName] = .ok path) :
      WalkPath g m path
  /-- The index of the kinds. -/
  | rootIndex {path} (h : joinParts [g.config.rootModuleName] = .ok path) : WalkPath g m path

section

variable (g : Generator) (render : Renderer ρ) {sink : Sink σ} {m : Model} {I : Walk ρ σ → Prop}
  (hother : ∀ w e r, I w → I { w with engine := e, registry := r })
  (hemit : ∀ item f, g.WalkPath m f.path → Walking.Preserves I (emit sink item f))

include hother

/-- Rendering hands nothing over. -/
theorem preserves_renderText (template : Data) (context : Entries) :
    Walking.Preserves I (renderText render template context) := by
  intro w h
  rw [runFrom_renderText]
  exact hother w _ w.registry h

include hemit

theorem preserves_emitEntity (aggregateContext : Data) {a : Aggregate} (ha : a ∈ m.aggregates)
    {e : Entity} (he : e ∈ a.entities) :
    Walking.Preserves I (g.emitEntity render sink aggregateContext e) := by
  unfold emitEntity
  refine .bind (.ofExcept _) fun template =>
    .bind (preserves_renderText render hother _ _) fun content =>
      .bind (hemit _ _ (.entity ha he)) fun _ => .read fun w h => ?_
  split
  · exact hother w w.engine _ h
  · exact h

theorem preserves_emitAggregate (modelContext : Data) {a : Aggregate} (ha : a ∈ m.aggregates) :
    Walking.Preserves I (g.emitAggregate render sink modelContext a) :=
  .bind (.ofExcept _) fun _ => .bind (preserves_renderText render hother _ _) fun _ =>
    .bind (hemit _ _ (.aggregate ha)) fun _ =>
      .forM fun _ he => g.preserves_emitEntity render hother hemit _ ha he

theorem preserves_emitKindIndex (template : Data) (c : Collection) :
    Walking.Preserves I (g.emitKindIndex render sink template c) :=
  .bind (preserves_renderText render hother _ _) fun _ => .given fun _ hpath =>
    hemit _ _ (.kindIndex (except_mapError_eq_ok.mp hpath))

theorem preserves_emitRootIndex (collections : List Collection) :
    Walking.Preserves I (g.emitRootIndex render sink collections) := by
  unfold emitRootIndex
  split
  · exact .bind (.ofExcept _) fun _ => .bind (preserves_renderText render hother _ _) fun _ =>
      .given fun _ hpath => hemit _ _ (.rootIndex (except_mapError_eq_ok.mp hpath))
  · exact .pure ()

/-- **What handing a file over keeps, under any path of the walk, the walk keeps**, over every model
    and also if it fails. -/
theorem preserves_walk : Walking.Preserves I (g.walk render sink m) := by
  unfold walk
  refine .bind (.forM fun _ ha => g.preserves_emitAggregate render hother hemit _ ha) fun _ =>
    .bind (.ofExcept _) fun template => .read fun w h => ?_
  have hindexes : Walking.Preserves I
      (w.registry.collections.forM (g.emitKindIndex render sink template) >>= fun _ =>
        g.emitRootIndex render sink w.registry.collections) :=
    .bind (.forM fun c _ => g.preserves_emitKindIndex render hother hemit template c) fun _ =>
      g.preserves_emitRootIndex render hother hemit _
  exact hindexes w h

end

end Generator

/-! ## 3. The invariant -/

/-- The view of the sink shows what it held before the walk and the files of the walk. -/
def Walk.Accounts (kept : σ → List GeneratedFile) (before : List GeneratedFile) (w : Walk ρ σ) :
    Prop :=
  kept w.sink = before ++ w.files

section Accounts

variable {sink : Sink σ} {kept : σ → List GeneratedFile} {before : List GeneratedFile}

theorem accounts_start (kept : σ → List GeneratedFile) (e : ρ) (s : σ) :
    (Walk.start e s).Accounts kept (kept s) :=
  (List.append_nil _).symm

/-- **A file is listed exactly if the sink accepts it.** -/
theorem accounts_emit (hk : sink.Keeps kept) (item : Item) (f : GeneratedFile) :
    Walking.Preserves (ρ := ρ) (Walk.Accounts kept before) (emit sink item f) := by
  intro w h
  cases ho : w.owners.lookup f.path with
  | some first =>
      rw [runFrom_emit_taken ho]
      exact h
  | none =>
      rcases hs : sink w.sink f with ⟨s, _ | fault⟩
      · rw [runFrom_emit_accepted ho hs]
        show kept s = before ++ (w.files ++ [f])
        rw [hk.accepted hs, h, List.append_assoc]
      · rw [runFrom_emit_refused ho hs]
        exact (hk.refused hs).trans h

/-- **Every walk lists what the sink accepts**, over every model and also if it fails. -/
theorem Generator.accounts_walk (g : Generator) (render : Renderer ρ) (hk : sink.Keeps kept)
    (m : Model) : Walking.Preserves (Walk.Accounts kept before) (g.walk render sink m) :=
  g.preserves_walk render (fun _ _ _ h => h) fun item f _ => accounts_emit hk item f

/-! ## 4. Results -/

/-- **The sink has accepted some files when generating ends**, and a model that is generated
    completely lists them. -/
theorem generate_accounts (g : Generator) (render : Renderer ρ) (hk : sink.Keeps kept) (m : Model)
    (e : ρ) (s : σ) :
    ∃ accepted, kept (g.generate render sink m e s).sink = kept s ++ accepted ∧
      ∀ generated, (g.generate render sink m e s).outcome = .ok generated →
        generated.files = accepted := by
  unfold Generator.generate
  rcases g.nameModel m with ⟨named, _ | problem⟩
  · have hw := g.accounts_walk render hk named (.start e s) (accounts_start kept e s)
    dsimp only
    rcases hrun : (g.walk render sink named).runFrom (.start e s) with ⟨problem | ⟨⟩, w⟩ <;>
      rw [hrun] at hw
    · exact ⟨w.files, hw, fun generated h => by cases h⟩
    · refine ⟨w.files, hw, fun generated h => ?_⟩
      cases h
      rfl
  · exact ⟨[], (List.append_nil _).symm, fun generated h => by cases h⟩

section Outcome

variable {g : Generator} {render : Renderer ρ} {m : Model} {e : ρ} {s : σ}

theorem generateCode_of_ok {generated : Generated}
    (h : (g.generate render sink m e s).outcome = .ok generated) :
    generateCode g render sink m e s =
      (g.generate render sink m e s, ⟨some generated, none⟩) := by
  unfold generateCode
  dsimp only
  rw [h]

theorem generateCode_of_error {problem : Failure}
    (h : (g.generate render sink m e s).outcome = .error problem) :
    generateCode g render sink m e s =
      (g.generate render sink m e s, ⟨none, some problem⟩) := by
  unfold generateCode
  dsimp only
  rw [h]

end Outcome

/-- **A result tells how every walk ended, and it lists the files that the sink has accepted exactly
    if the walk ended well or nothing was accepted.** The result of a walk that failed carries the
    failure, in words as well, but no files, though the sink keeps those that it accepted before. -/
theorem generateCode_accounts (g : Generator) (render : Renderer ρ) (hk : sink.Keeps kept)
    (m : Model) (e : ρ) (s : σ) :
    ∃ r accepted, generateCode g render sink m e s = (g.generate render sink m e s, r) ∧
      kept (g.generate render sink m e s).sink = kept s ++ accepted ∧
      (r.success = true ↔ ∃ generated, (g.generate render sink m e s).outcome = .ok generated) ∧
      (∀ f, r.failure = some f ↔ (g.generate render sink m e s).outcome = .error f) ∧
      r.errorMessage = r.failure.map (fun f => withDetail "Code generation failed" f.message?) ∧
      (r.success = true → r.files = accepted) ∧
      (r.success = false → r.files = [] ∧ r.metadata = []) ∧
      (r.files = accepted ↔ r.success = true ∨ accepted = []) := by
  obtain ⟨accepted, hkept, hlisted⟩ := generate_accounts g render hk m e s
  cases ho : (g.generate render sink m e s).outcome with
  | ok generated =>
      have hfiles : generated.files = accepted := hlisted generated ho
      refine ⟨⟨some generated, none⟩, accepted, generateCode_of_ok ho, hkept,
        ⟨fun _ => ⟨generated, rfl⟩, fun _ => rfl⟩, fun f => ⟨?_, ?_⟩, rfl, fun _ => hfiles, ?_,
        fun _ => Or.inl rfl, fun _ => hfiles⟩ <;> (intro h; cases h)
  | error problem =>
      refine ⟨⟨none, some problem⟩, accepted, generateCode_of_error ho, hkept, ⟨?_, ?_⟩,
        fun f => ⟨?_, ?_⟩, rfl, ?_, fun _ => ⟨rfl, rfl⟩, fun h => Or.inr h.symm, ?_⟩
      · intro h
        cases h
      · rintro ⟨generated, h⟩
        cases h
      · intro h
        cases h
        rfl
      · intro h
        cases h
        rfl
      · intro h
        cases h
      · rintro (h | rfl)
        · cases h
        · rfl

end Accounts

/-- A walk that fails at its second file: the result lists nothing, the sink has the first file. -/
theorem generateCode_twins :
    (generateCode plainGenerator countingRenderer memorySink twins 0 []).2.success = false ∧
      (generateCode plainGenerator countingRenderer memorySink twins 0 []).2.files = [] ∧
      (generateCode plainGenerator countingRenderer memorySink twins 0 []).1.sink =
        [⟨"aggregates/order.js", "0", some "Order"⟩] := by
  decide +kernel

/-- The same walk, by what holds of every walk. -/
theorem generateCode_accounts_twins : ∃ r accepted,
    generateCode plainGenerator countingRenderer memorySink twins 0 [] =
        (plainGenerator.generate countingRenderer memorySink twins 0 [], r) ∧
      (plainGenerator.generate countingRenderer memorySink twins 0 []).sink = [] ++ accepted ∧
      (r.files = accepted ↔ r.success = true ∨ accepted = []) := by
  obtain ⟨r, accepted, hr, hkept, _, _, _, _, _, hlisted⟩ := generateCode_accounts plainGenerator
    countingRenderer Sink.memorySink_keeps twins 0 []
  exact ⟨r, accepted, hr, hkept, hlisted⟩

end DomainGen
