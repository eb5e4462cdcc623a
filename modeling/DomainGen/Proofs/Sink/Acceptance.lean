import DomainGen.Sink.Basic

/-!
# What sinks take

A sink may keep any state. What it has taken is read off that state by a view, and the view is
faithful if a file that is accepted comes behind those before it and a file that is refused leaves
no trace.

Files that were held back are passed on one after the other, up to the first that the sink refuses.

* `Sink.Keeps` : a view is faithful; `Sink.AcceptsAll` : nothing is ever refused;
* `memorySink_keeps`, `failingSink_keeps`, `bufferedSink_keeps` : sinks that hold what they took;
* `recordingSink_keeps` : **recording gives every sink a faithful view**, and
  `recordingSink_accounts` : it agrees with any other faithful view;
* `Sink.Takes` : a sink takes a list of files, one by one;
* `forward_taken`, `forward_refused`, `forward_cases` : **passing on either takes all files or stops
  at one that is refused**;
* `takes_of_acceptsAll` : a sink that refuses nothing takes everything;
* `takes_recordingSink` : recording does not change what a sink takes.
-/

/-! ## 1. Faithful views -/

namespace DomainGen

namespace Sink

variable {σ : Type}

/-- The view `kept` shows exactly what the sink has accepted, in order. -/
structure Keeps (sink : Sink σ) (kept : σ → List GeneratedFile) : Prop where
  /-- A file that is accepted comes behind the others. -/
  accepted : ∀ {s t f}, sink s f = (t, none) → kept t = kept s ++ [f]
  /-- Nothing is taken when a file is refused. -/
  refused : ∀ {s t f e}, sink s f = (t, some e) → kept t = kept s

/-- The sink refuses nothing. -/
def AcceptsAll (sink : Sink σ) : Prop :=
  ∀ s f, (sink s f).2 = none

theorem memorySink_keeps : Sink.Keeps memorySink (fun kept => kept) where
  accepted h := by
    rw [memorySink_apply] at h
    exact (Prod.mk.inj h).1.symm
  refused h := by
    rw [memorySink_apply] at h
    cases h

theorem memorySink_acceptsAll : Sink.AcceptsAll memorySink := fun _ _ => rfl

theorem failingSink_keeps (capacity : Nat) : (failingSink capacity).Keeps (fun kept => kept) where
  accepted {s t f} h := by
    unfold failingSink at h
    split at h
    · exact (Prod.mk.inj h).1.symm
    · cases h
  refused {s t f e} h := by
    unfold failingSink at h
    split at h
    · cases h
    · exact (Prod.mk.inj h).1.symm

/-- A recording hands every file on. -/
@[simp] theorem target_recordingSink (target : Sink σ) (s : Recorded σ) (f : GeneratedFile) :
    (recordingSink target s f).1.target = (target s.target f).1 := by
  unfold recordingSink
  rcases target s.target f with ⟨t, _ | e⟩ <;> rfl

/-- A recording remembers what the sink behind it accepted, whatever that sink is. -/
theorem recordingSink_keeps (target : Sink σ) : (recordingSink target).Keeps (·.files) where
  accepted {s t f} h := by
    unfold recordingSink at h
    split at h
    · cases h
      rfl
    · cases h
  refused {s t f e} h := by
    unfold recordingSink at h
    split at h
    · cases h
    · cases h
      rfl

theorem recordingSink_acceptsAll {target : Sink σ} (ha : target.AcceptsAll) :
    (recordingSink target).AcceptsAll := by
  intro s f
  have hs : target s.target f = ((target s.target f).1, none) := Prod.ext rfl (ha s.target f)
  unfold recordingSink
  rw [hs]

/-- **A recording lists what the sink behind it has accepted since**, whatever that sink refuses. -/
theorem recordingSink_accounts {target : Sink σ} {kept : σ → List GeneratedFile}
    (hk : target.Keeps kept) {before : List GeneratedFile} {s : Recorded σ}
    (h : kept s.target = before ++ s.files) (f : GeneratedFile) :
    kept (recordingSink target s f).1.target = before ++ (recordingSink target s f).1.files := by
  unfold recordingSink
  rcases ht : target s.target f with ⟨t, _ | e⟩
  · show kept t = before ++ (s.files ++ [f])
    rw [hk.accepted ht, h, List.append_assoc]
  · exact (hk.refused ht).trans h

theorem bufferedSink_keeps : Sink.Keeps (bufferedSink (σ := σ)) (·.pending) where
  accepted h := by
    cases h
    rfl
  refused h := by cases h

theorem bufferedSink_acceptsAll : Sink.AcceptsAll (bufferedSink (σ := σ)) := fun _ _ => rfl

end Sink

/-! ## 2. Passing files on -/

namespace Sink

variable {σ : Type} (sink : Sink σ)

/-- The sink takes all files of a list and is in a given state then. -/
def Takes : σ → List GeneratedFile → σ → Prop
  | s, [], t => t = s
  | s, f :: rest, t => ∃ u, sink s f = (u, none) ∧ Takes u rest t

variable {sink}

/-- A file more is taken behind the others. -/
theorem Takes.concat : ∀ {files : List GeneratedFile} {s t u : σ} {f : GeneratedFile},
    sink.Takes s files t → sink t f = (u, none) → sink.Takes s (files ++ [f]) u
  | [], _, _, u, _, h, hf => by
      cases h
      exact ⟨u, hf, rfl⟩
  | _ :: _, _, _, _, _, ⟨v, hv, hrest⟩, hf => ⟨v, hv, hrest.concat hf⟩

theorem forward_taken : ∀ {files : List GeneratedFile} {s t : σ}, sink.Takes s files t →
    forward sink s files = (t, [], .ok files.length)
  | [], s, t, h => by
      cases h
      rfl
  | f :: rest, s, t, h => by
      obtain ⟨u, hu, hrest⟩ := h
      simp only [forward, hu, forward_taken hrest, Except.map, List.length_cons]

theorem forward_refused : ∀ {taken : List GeneratedFile} {f : GeneratedFile}
    {rest : List GeneratedFile} {s t u : σ} {e : Fault}, sink.Takes s taken t →
    sink t f = (u, some e) → forward sink s (taken ++ f :: rest) = (u, rest, .error e)
  | [], f, rest, s, t, u, e, h, hf => by
      cases h
      simp only [List.nil_append, forward, hf]
  | x :: taken, f, rest, s, t, u, e, h, hf => by
      obtain ⟨v, hv, htaken⟩ := h
      simp only [List.cons_append, forward, hv, forward_refused htaken hf, Except.map]

variable (sink) in
/-- **A sink takes all files of a list, or refuses one of them after it took those before.** -/
theorem forward_cases : ∀ (files : List GeneratedFile) (s : σ), (∃ t, sink.Takes s files t) ∨
    ∃ taken f rest t u e, files = taken ++ f :: rest ∧ sink.Takes s taken t ∧
      sink t f = (u, some e)
  | [], s => Or.inl ⟨s, rfl⟩
  | f :: rest, s => by
      rcases hf : sink s f with ⟨u, _ | e⟩
      · rcases forward_cases rest u with ⟨t, ht⟩ | ⟨taken, g, others, t, v, e, rfl, ht, hg⟩
        · exact Or.inl ⟨t, u, hf, ht⟩
        · exact Or.inr ⟨f :: taken, g, others, t, v, e, rfl, ⟨u, hf, ht⟩, hg⟩
      · exact Or.inr ⟨[], f, rest, s, u, e, rfl, rfl, hf⟩

/-- What no file destroys in the sink, passing files on does not destroy. -/
theorem forward_sink_induct {I : σ → Prop} (hI : ∀ s f, I s → I (sink s f).1) :
    ∀ (files : List GeneratedFile) {s : σ}, I s → I (forward sink s files).1
  | [], _, hs => hs
  | f :: rest, s, hs => by
      have hf := hI s f hs
      unfold forward
      rcases hp : sink s f with ⟨u, _ | e⟩ <;> rw [hp] at hf
      · exact forward_sink_induct hI rest hf
      · exact hf

/-- A sink that refuses nothing takes every list of files, and a faithful view shows them. -/
theorem takes_of_acceptsAll (ha : sink.AcceptsAll) {kept : σ → List GeneratedFile}
    (hk : sink.Keeps kept) : ∀ (files : List GeneratedFile) (s : σ),
    ∃ t, sink.Takes s files t ∧ kept t = kept s ++ files
  | [], s => ⟨s, rfl, (List.append_nil _).symm⟩
  | f :: rest, s => by
      have hf : sink s f = ((sink s f).1, none) := Prod.ext rfl (ha s f)
      obtain ⟨t, ht, hkept⟩ := takes_of_acceptsAll ha hk rest (sink s f).1
      rw [hk.accepted hf, List.append_assoc] at hkept
      exact ⟨t, ⟨_, hf, ht⟩, hkept⟩

/-- A recording takes what the sink behind it takes, and remembers it. -/
theorem takes_recordingSink : ∀ {files : List GeneratedFile} {s t : σ}
    (before : List GeneratedFile), sink.Takes s files t →
    (recordingSink sink).Takes ⟨s, before⟩ files ⟨t, before ++ files⟩
  | [], s, t, before, h => by
      cases h
      rw [List.append_nil]
      rfl
  | f :: rest, s, t, before, h => by
      obtain ⟨u, hu, hrest⟩ := h
      have hf : recordingSink sink ⟨s, before⟩ f = (⟨u, before ++ [f]⟩, none) := by
        simp only [recordingSink, hu]
      have ih := takes_recordingSink (before ++ [f]) hrest
      rw [List.append_assoc, List.singleton_append] at ih
      exact ⟨_, hf, ih⟩

/-- A recording refuses what the sink behind it refuses. -/
theorem recordingSink_refused {s u : σ} {f : GeneratedFile} {e : Fault}
    (h : sink s f = (u, some e)) (before : List GeneratedFile) :
    recordingSink sink ⟨s, before⟩ f = (⟨u, before⟩, some e) := by
  simp only [recordingSink, h]

end Sink

end DomainGen
