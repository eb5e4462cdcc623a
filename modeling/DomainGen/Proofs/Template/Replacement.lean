import DomainGen.Proofs.Except
import DomainGen.Proofs.Template.Cache
import Mathlib.Data.List.Induction
import Mathlib.Logic.Relation

/-!
# Templates that are added to an engine

An engine can be given templates to hold while it is in use. It gives up what it has read under that
name, but templates that came from a file are remembered a second time, and there the file stays the
template of its name: a template that the engine is given later is held and never rendered.

* `Engine.Call`, `Engine.afterAll` : what an engine is asked to do, and what it is then;
  `sourcesAfter` : the sources it holds then;
* `Engine.Kept` : what an engine remembers is what it would read, with or without what it holds;
  `kept_afterAll` : **no call destroys that**;
* `Engine.Overlooks` : a template was read from a file before one of its name was added;
* `render_afterAll` : **an engine that was used renders like a new one, except for what it
  overlooks**, and `file_stays` : a template that is overlooked.
-/

namespace DomainGen

open Template

/-- Taking entries out by their names takes out what is found under these names. -/
theorem lookup_filter {β : Type} (keep : String → Bool) (n : String) :
    ∀ entries : List (String × β), (entries.filter fun x => keep x.1).lookup n =
      if keep n then entries.lookup n else none
  | [] => by
      split <;> rfl
  | (k, b) :: rest => by
      have ih := lookup_filter keep n rest
      rw [List.filter_cons, List.lookup_cons]
      by_cases hn : n = k
      · subst hn
        cases hk : keep n <;> simp only [hk, ih, List.lookup_cons_self, Bool.false_eq_true, if_true,
          if_false, beq_self_eq_true]
      · have hb : (n == k) = false := beq_eq_false_iff_ne.mpr hn
        cases hk : keep k <;> simp only [hb, ih, List.lookup_cons, Bool.false_eq_true, if_true,
          if_false]

namespace Engine

variable {tree : FileTree} {e : Engine} {n : String}

/-! ## 1. Sources -/

/-- Reads the source of a template. -/
def readSource (name source : String) : Except Failure Template :=
  match Template.ofSource (some name) (escapes name) source with
  | .ok t => .ok t
  | .error .form => .error (.template (.invalid name source))
  | .error (.fault f) => .error (.fault f)

/-- Renders the source of a template that has a name. -/
def renderSource (name source : String) (context : Entries) : Except Failure String :=
  readSource name source >>= fun t =>
    (t.render context).mapError fun f => .template (.notRendered (some name) t context f)

/-- The engine with nothing but its folders. -/
def unheld (e : Engine) : Engine := { e.unread with held := [] }

/-- A template the engine holds is read from its source. -/
theorem load_held {source : String} (h : e.held.lookup n = some source) :
    e.load tree n = (readSource n source).map (·, .held source) := by
  unfold load source? readSource
  rw [h]
  dsimp only
  rcases Template.ofSource (some n) (escapes n) source with (_ | f) | t <;> rfl

/-- Any other template is read from a file. -/
theorem load_unheld (h : e.held.lookup n = none) : e.load tree n = e.unheld.load tree n := by
  unfold load source?
  rw [h]
  rfl

/-- What an engine that holds nothing reads comes from a file. -/
theorem origin_unheld {t : Template} {origin : Origin}
    (h : e.unheld.load tree n = .ok (t, origin)) : origin = .file := by
  have hsource : ∀ {source o}, e.unheld.source? tree n = .ok (some (source, o)) → o = .file := by
    intro source o hs
    unfold source? at hs
    dsimp only [unheld, List.lookup] at hs
    split at hs
    · cases hs
    · obtain ⟨encoding, _, hs⟩ := except_bind_eq_ok.mp hs
      obtain ⟨text, _, hs⟩ := except_bind_eq_ok.mp hs
      cases hs
      rfl
  unfold load at h
  split at h
  · cases h
  · cases h
  · rename_i source o hs
    obtain rfl := hsource hs
    split at h <;> cases h
    rfl

/-- A template that is read comes from a file, if none of its name is held, or from the source that is
    held. -/
theorem load_cases {t : Template} {origin : Origin} (h : e.load tree n = .ok (t, origin)) :
    (origin = .file ∧ e.held.lookup n = none ∧ e.unheld.load tree n = .ok (t, .file)) ∨
      ∃ source, origin = .held source ∧ e.held.lookup n = some source ∧
        readSource n source = .ok t := by
  cases hheld : e.held.lookup n with
  | none =>
      rw [load_unheld hheld] at h
      obtain rfl := origin_unheld h
      exact Or.inl ⟨rfl, rfl, h⟩
  | some source =>
      rw [load_held hheld] at h
      obtain ⟨_, hread, heq⟩ := except_map_eq_ok.mp h
      cases heq
      exact Or.inr ⟨source, rfl, rfl, hread⟩

/-! ## 2. Calls -/

/-- What an engine is asked to do. -/
inductive Call where
  /-- Is there a source? -/
  | provides (name : Data)
  | compile (name : Data)
  | compileAll (names : List Data)
  /-- Hold a template. -/
  | add (name source : String)
  | render (name : Data) (context : Entries)
  deriving Repr, Inhabited

/-- The engine after a call. -/
def after (tree : FileTree) (e : Engine) : Call → Engine
  | .provides _ => e
  | .compile name => (e.compile tree name).1
  | .compileAll names => (compileAll tree e names []).1
  | .add name source => e.add name source
  | .render name context => (e.render tree name context).1

/-- The engine after some calls. -/
def afterAll (tree : FileTree) (e : Engine) (calls : List Call) : Engine :=
  calls.foldl (after tree) e

/-- The sources that are held after a call. -/
def Call.sources (held : List (String × String)) : Call → List (String × String)
  | add name source => (name, source) :: held.filter (·.1 != name)
  | _ => held

/-- The sources that are held after some calls. -/
def sourcesAfter (held : List (String × String)) (calls : List Call) : List (String × String) :=
  calls.foldl Call.sources held

/-- What an engine can become while it reads templates. -/
def Reads (tree : FileTree) : Engine → Engine → Prop :=
  Relation.ReflTransGen fun e e' => ∃ name, e' = (e.compile tree name).1

theorem reads_compile (tree : FileTree) (e : Engine) (name : Data) : Reads tree e (e.compile tree name).1 :=
  .single ⟨name, rfl⟩

theorem reads_compileAll : ∀ (names done : List Data) (e : Engine),
    Reads tree e (compileAll tree e names done).1
  | [], _, _ => .refl
  | name :: rest, done, e => by
      have hread := reads_compile tree e name
      unfold compileAll
      split
      · exact reads_compileAll rest done e
      · rcases hc : e.compile tree name with ⟨next, f | t⟩ <;> rw [hc] at hread
        · exact hread
        · exact hread.trans (reads_compileAll rest _ next)

/-- **A call adds a template or does nothing but read.** -/
theorem after_cases (tree : FileTree) (e : Engine) (c : Call) :
    (∃ name source, c = .add name source) ∨
      Reads tree e (e.after tree c) ∧ c.sources e.held = e.held := by
  cases c with
  | provides name => exact Or.inr ⟨.refl, rfl⟩
  | compile name => exact Or.inr ⟨reads_compile tree e name, rfl⟩
  | compileAll names => exact Or.inr ⟨reads_compileAll names [] e, rfl⟩
  | add name source => exact Or.inl ⟨name, source, rfl⟩
  | render name context =>
      refine Or.inr ⟨?_, rfl⟩
      show Reads tree e (e.render tree name context).1
      rw [render_fst]
      exact reads_compile tree e name

/-- Reading changes nothing an engine is made of. -/
theorem unread_reads {e' : Engine} (h : Reads tree e e') : e'.unread = e.unread := by
  induction h with
  | refl => rfl
  | tail _ hstep ih =>
      obtain ⟨name, rfl⟩ := hstep
      exact (alike_compile _ tree name).unread_eq.symm.trans ih

/-- What an engine is made of after a call. -/
theorem unread_after (tree : FileTree) (e : Engine) (c : Call) :
    (e.after tree c).unread = { e.unread with held := c.sources e.held } := by
  rcases after_cases tree e c with ⟨name, source, rfl⟩ | ⟨hreads, hsources⟩
  · rfl
  · rw [unread_reads hreads, hsources]
    rfl

theorem unread_afterAll : ∀ (calls : List Call) (e : Engine),
    (e.afterAll tree calls).unread = { e.unread with held := sourcesAfter e.held calls }
  | [], _ => rfl
  | c :: rest, e => by
      have hfirst := unread_after tree e c
      have hheld : (e.after tree c).held = c.sources e.held := congrArg Engine.held hfirst
      show ((e.after tree c).afterAll tree rest).unread = _
      rw [unread_afterAll rest, hfirst, hheld]
      rfl

theorem held_afterAll (calls : List Call) (e : Engine) :
    (e.afterAll tree calls).held = sourcesAfter e.held calls :=
  congrArg Engine.held (unread_afterAll calls e)

theorem unheld_afterAll (calls : List Call) (e : Engine) :
    (e.afterAll tree calls).unheld = e.unheld :=
  congrArg (fun u : Engine => { u with held := [] }) (unread_afterAll calls e)

theorem afterAll_concat (e : Engine) (calls : List Call) (c : Call) :
    e.afterAll tree (calls ++ [c]) = (e.afterAll tree calls).after tree c := List.foldl_append ..

/-! ## 3. What is remembered -/

/-- What an engine has read is accounted for: a template from a file is the one its folders give, one
    that was held is read from the source it was held with, and every template in use is remembered
    and still counts. -/
structure Kept (tree : FileTree) (e : Engine) : Prop where
  file : ∀ {n t}, e.cache.lookup n = some (t, .file) → e.unheld.load tree n = .ok (t, .file)
  held : ∀ {n t source}, e.cache.lookup n = some (t, .held source) → readSource n source = .ok t
  used : ∀ {n t}, e.compiled.lookup n = some t → ∃ origin, e.cached? n = some (t, origin)

theorem kept_make (tree : FileTree) (folders : List Path) (held : List (String × String))
    (encoding : Data) : (make tree folders held encoding).Kept tree where
  file h := by cases h
  held h := by cases h
  used h := by cases h

/-- What still counts was read from a file, or from the source that is held. -/
theorem cached?_eq_some {t : Template} {origin : Origin} (h : e.cached? n = some (t, origin)) :
    e.cache.lookup n = some (t, origin) ∧
      (origin = .file ∨ ∃ source, origin = .held source ∧ e.held.lookup n = some source) := by
  unfold cached? at h
  split at h
  · rename_i hc
    cases h
    exact ⟨hc, Or.inl rfl⟩
  · rename_i source hc
    split at h
    · rename_i hs
      cases h
      exact ⟨hc, Or.inr ⟨source, rfl, beq_iff_eq.mp hs⟩⟩
    · cases h
  · cases h

theorem cached?_file {t : Template} (h : e.cache.lookup n = some (t, .file)) :
    e.cached? n = some (t, .file) := by
  unfold cached?
  rw [h]

theorem cached?_congr (e e' : Engine) (hcache : e'.cache.lookup n = e.cache.lookup n)
    (hheld : e'.held.lookup n = e.held.lookup n) : e'.cached? n = e.cached? n := by
  unfold cached?
  rw [hcache, hheld]

/-- A template that is remembered and still counts can be used. -/
theorem Kept.use (h : e.Kept tree) {k : String} {t : Template} {origin : Origin}
    (hk : e.cached? k = some (t, origin)) :
    Kept tree { e with compiled := (k, t) :: e.compiled } where
  file hn := h.file hn
  held hn := h.held hn
  used {n u} hu := by
    by_cases hn : n = k
    · subst hn
      obtain rfl := Option.some.inj (List.lookup_cons_self.symm.trans hu)
      exact ⟨origin, hk⟩
    · exact h.used ((lookup_cons_ne hn t e.compiled).symm.trans hu)

/-- A template that is read now can be remembered. -/
theorem Kept.remember (h : e.Kept tree) {k : String} {t : Template} {origin : Origin}
    (hunused : e.compiled.lookup k = none) (hload : e.load tree k = .ok (t, origin)) :
    Kept tree { e with cache := (k, t, origin) :: e.cache } where
  file {n u} hu := by
    by_cases hn : n = k
    · subst hn
      cases List.lookup_cons_self.symm.trans hu
      rcases load_cases hload with ⟨_, _, hread⟩ | ⟨source, heq, _⟩
      · exact hread
      · cases heq
    · exact h.file ((lookup_cons_ne hn (t, origin) e.cache).symm.trans hu)
  held {n u source} hu := by
    by_cases hn : n = k
    · subst hn
      cases List.lookup_cons_self.symm.trans hu
      rcases load_cases hload with ⟨heq, _⟩ | ⟨given, heq, _, hread⟩
      · cases heq
      · cases heq
        exact hread
    · exact h.held ((lookup_cons_ne hn (t, origin) e.cache).symm.trans hu)
  used {n u} hu := by
    have hn : n ≠ k := by
      rintro rfl
      cases hunused.symm.trans hu
    obtain ⟨o, ho⟩ := h.used hu
    exact ⟨o, (cached?_congr e { e with cache := (k, t, origin) :: e.cache }
      (lookup_cons_ne hn _ _) rfl).trans ho⟩

/-- What is remembered when it is read counts. -/
theorem cached?_remember {k : String} {t : Template} {origin : Origin}
    (hload : e.load tree k = .ok (t, origin)) :
    cached? { e with cache := (k, t, origin) :: e.cache } k = some (t, origin) := by
  unfold cached?
  dsimp only
  rw [List.lookup_cons_self]
  rcases load_cases hload with ⟨rfl, _⟩ | ⟨source, rfl, hheld, _⟩
  · rfl
  · exact if_pos (beq_iff_eq.mpr hheld)

theorem kept_compile (h : e.Kept tree) (name : Data) : (e.compile tree name).1.Kept tree := by
  rcases compile_reads e tree name with
    hsame | ⟨k, t, origin, hunused, ⟨hcached, hnext⟩ | ⟨_, hload, hnext⟩⟩
  · rw [hsame]
    exact h
  · rw [hnext]
    exact h.use hcached
  · rw [hnext]
    exact (h.remember hunused hload).use (cached?_remember hload)

/-- What is in use after a template was added was in use before, under another name. -/
theorem compiled_add {name source : String} {t : Template}
    (h : (e.add name source).compiled.lookup n = some t) :
    n ≠ name ∧ e.compiled.lookup n = some t := by
  have hlookup : (e.add name source).compiled.lookup n =
      if n != name then e.compiled.lookup n else none := lookup_filter (· != name) n e.compiled
  rw [hlookup] at h
  split at h
  · rename_i hne
    exact ⟨bne_iff_ne.mp hne, h⟩
  · cases h

/-- Adding a template does not touch what is held under other names. -/
theorem held_add {name : String} (hn : n ≠ name) (source : String) :
    (e.add name source).held.lookup n = e.held.lookup n := by
  show List.lookup n ((name, source) :: e.held.filter (·.1 != name)) = _
  rw [List.lookup_cons, beq_eq_false_iff_ne.mpr hn]
  show List.lookup n (e.held.filter (·.1 != name)) = _
  rw [lookup_filter (· != name), if_pos (bne_iff_ne.mpr hn)]

theorem kept_add (h : e.Kept tree) (name source : String) : (e.add name source).Kept tree where
  file hn := h.file hn
  held hn := h.held hn
  used hn := by
    obtain ⟨hne, hbefore⟩ := compiled_add hn
    obtain ⟨origin, ho⟩ := h.used hbefore
    exact ⟨origin, (cached?_congr e (e.add name source) rfl (held_add hne source)).trans ho⟩

theorem kept_reads {e' : Engine} (h : e.Kept tree) (hreads : Reads tree e e') : e'.Kept tree := by
  induction hreads with
  | refl => exact h
  | tail _ hstep ih =>
      obtain ⟨name, rfl⟩ := hstep
      exact kept_compile ih name

theorem kept_after (h : e.Kept tree) (c : Call) : (e.after tree c).Kept tree := by
  rcases after_cases tree e c with ⟨name, source, rfl⟩ | ⟨hreads, _⟩
  · exact kept_add h name source
  · exact kept_reads h hreads

/-- **No call destroys what is known of an engine.** -/
theorem kept_afterAll : ∀ (calls : List Call) {e : Engine}, e.Kept tree →
    (e.afterAll tree calls).Kept tree
  | [], _, h => h
  | c :: rest, _, h => kept_afterAll rest (kept_after h c)

/-! ## 4. What is overlooked -/

/-- Some calls ago the engine had a template in use without holding one of its name. -/
def ReadFromFile (tree : FileTree) (e : Engine) (calls : List Call) (n : String) : Prop :=
  ∃ earlier later, calls = earlier ++ later ∧ (sourcesAfter e.held earlier).lookup n = none ∧
    ((e.afterAll tree earlier).compiled.lookup n).isSome = true

/-- The engine holds a template that was added after one of its name was read from a file. -/
def Overlooks (tree : FileTree) (e : Engine) (calls : List Call) (n : String) : Prop :=
  ReadFromFile tree e calls n ∧ ((sourcesAfter e.held calls).lookup n).isSome = true

/-- What was read from a file is remembered for good. -/
theorem file_compile {t : Template} (h : e.cache.lookup n = some (t, .file)) (name : Data) :
    (e.compile tree name).1.cache.lookup n = some (t, .file) := by
  rcases compile_reads e tree name with hsame | ⟨k, u, origin, _, ⟨_, hnext⟩ | ⟨hnone, _, hnext⟩⟩
  · rw [hsame]
    exact h
  · rw [hnext]
    exact h
  · rw [hnext]
    have hne : n ≠ k := by
      rintro rfl
      rw [cached?_file h] at hnone
      cases hnone
    exact (lookup_cons_ne hne (u, origin) e.cache).trans h

theorem file_reads {e' : Engine} {t : Template} (h : e.cache.lookup n = some (t, .file))
    (hreads : Reads tree e e') : e'.cache.lookup n = some (t, .file) := by
  induction hreads with
  | refl => exact h
  | tail _ hstep ih =>
      obtain ⟨name, rfl⟩ := hstep
      exact file_compile ih name

theorem file_after {t : Template} (h : e.cache.lookup n = some (t, .file)) (c : Call) :
    (e.after tree c).cache.lookup n = some (t, .file) := by
  rcases after_cases tree e c with ⟨name, source, rfl⟩ | ⟨hreads, _⟩
  · exact h
  · exact file_reads h hreads

theorem file_afterAll {t : Template} : ∀ (calls : List Call) {e : Engine},
    e.cache.lookup n = some (t, .file) →
    (e.afterAll tree calls).cache.lookup n = some (t, .file)
  | [], _, h => h
  | c :: rest, _, h => file_afterAll rest (file_after h c)

/-- A template that reading has newly remembered as one from a file is in use, and none of its name
    is held. -/
theorem fresh_compile (name : Data) (hold : ∀ t, e.cache.lookup n ≠ some (t, .file)) {t : Template}
    (h : (e.compile tree name).1.cache.lookup n = some (t, .file)) :
    e.held.lookup n = none ∧ (e.compile tree name).1.compiled.lookup n = some t := by
  rcases compile_reads e tree name with hsame | ⟨k, u, origin, _, ⟨_, hnext⟩ | ⟨_, hload, hnext⟩⟩
  · rw [hsame] at h
    exact absurd h (hold t)
  · rw [hnext] at h
    exact absurd h (hold t)
  · rw [hnext] at h ⊢
    by_cases hn : n = k
    · subst hn
      cases List.lookup_cons_self.symm.trans h
      refine ⟨?_, List.lookup_cons_self⟩
      rcases load_cases hload with ⟨_, hheld, _⟩ | ⟨source, heq, _⟩
      · exact hheld
      · cases heq
    · exact absurd ((lookup_cons_ne hn (u, origin) e.cache).symm.trans h) (hold t)

/-- A template that was newly remembered as one from a file while an engine was reading is in use, and
    none of its name is held. -/
theorem fresh_reads {e' : Engine} (h : Reads tree e e') {t : Template}
    (hfile : e'.cache.lookup n = some (t, .file)) : (∃ u, e.cache.lookup n = some (u, .file)) ∨
      (e.held.lookup n = none ∧ ∃ u, e'.compiled.lookup n = some u) := by
  induction h generalizing t with
  | refl => exact Or.inl ⟨t, hfile⟩
  | @tail a b hreads hstep ih =>
      obtain ⟨name, rfl⟩ := hstep
      by_cases hold : ∃ u, a.cache.lookup n = some (u, .file)
      · obtain ⟨u, hu⟩ := hold
        refine (ih hu).imp_right (And.imp_right ?_)
        rintro ⟨v, hv⟩
        exact ⟨v, compiled_compile hv tree name⟩
      · obtain ⟨hheld, hused⟩ := fresh_compile name (fun u hu => hold ⟨u, hu⟩) hfile
        have heq : a.unread.held = e.unread.held := congrArg Engine.held (unread_reads hreads)
        exact Or.inr ⟨(congrArg (List.lookup n) heq).symm.trans hheld, t, hused⟩

/-- **What is remembered as a template from a file was read when none of its name was held**, and the
    other way round. -/
theorem readFromFile_iff (h : e.Kept tree) (hnew : e.cache = []) (calls : List Call) :
    ReadFromFile tree e calls n ↔
      ∃ t, (e.afterAll tree calls).cache.lookup n = some (t, .file) := by
  constructor
  · rintro ⟨earlier, later, rfl, hheld, hused⟩
    obtain ⟨t, ht⟩ := Option.isSome_iff_exists.mp hused
    obtain ⟨origin, ho⟩ := (kept_afterAll earlier h).used ht
    obtain ⟨hcache, rfl | ⟨source, _, hsource⟩⟩ := cached?_eq_some ho
    · refine ⟨t, ?_⟩
      show (List.foldl (after tree) e (earlier ++ later)).cache.lookup n = _
      rw [List.foldl_append]
      exact file_afterAll later hcache
    · rw [held_afterAll, hheld] at hsource
      cases hsource
  · induction calls using List.reverseRecOn with
    | nil =>
        rintro ⟨t, ht⟩
        have hnone : e.cache.lookup n = some (t, .file) := ht
        rw [hnew] at hnone
        cases hnone
    | append_singleton calls c ih =>
        rintro ⟨t, ht⟩
        have longer : ReadFromFile tree e calls n → ReadFromFile tree e (calls ++ [c]) n := by
          rintro ⟨earlier, later, rfl, hread⟩
          exact ⟨earlier, later ++ [c], List.append_assoc .., hread⟩
        rw [afterAll_concat] at ht
        rcases after_cases tree (e.afterAll tree calls) c with
          ⟨name, source, rfl⟩ | ⟨hreads, hsources⟩
        · exact longer (ih ⟨t, ht⟩)
        · rcases fresh_reads hreads ht with hold | ⟨hheld, hused⟩
          · exact longer (ih hold)
          · refine ⟨calls ++ [c], [], (List.append_nil _).symm, ?_, ?_⟩
            · have heq : ((e.afterAll tree calls).after tree c).held =
                  c.sources (e.afterAll tree calls).held := congrArg Engine.held (unread_after tree _ c)
              rw [← held_afterAll, afterAll_concat, heq, hsources]
              exact hheld
            · rw [afterAll_concat]
              exact Option.isSome_iff_exists.mpr hused

/-! ## 5. What is given -/

/-- A new engine gives what it reads. -/
theorem given_unread (e : Engine) (tree : FileTree) (n : String) :
    e.unread.given tree n = (e.load tree n).map (·.1) := rfl

/-- **An engine gives what a new one gives**, unless it remembers a template from a file and holds
    one of its name. -/
theorem given_kept (h : e.Kept tree)
    (hfile : ∀ t, e.cache.lookup n = some (t, .file) → e.held.lookup n = none) :
    e.given tree n = e.unread.given tree n := by
  have hcached : ∀ {t origin}, e.cached? n = some (t, origin) →
      (e.load tree n).map (·.1) = .ok t := by
    intro t origin ht
    obtain ⟨hcache, rfl | ⟨source, rfl, hsource⟩⟩ := cached?_eq_some ht
    · rw [load_unheld (hfile t hcache), h.file hcache]
      rfl
    · rw [load_held hsource, h.held hcache]
      rfl
  rw [given_unread]
  unfold given
  cases hc : e.compiled.lookup n with
  | some t =>
      obtain ⟨origin, ho⟩ := h.used hc
      exact (hcached ho).symm
  | none =>
      cases hk : e.cached? n with
      | some found => exact (hcached hk).symm
      | none => rfl

/-- **A template that is remembered from a file is given**, whatever is held. -/
theorem given_file (h : e.Kept tree) {t : Template} (hfile : e.cache.lookup n = some (t, .file)) :
    e.given tree n = e.unheld.given tree n := by
  have hunheld : e.unheld.given tree n = .ok t := by
    have hload := h.file hfile
    show (e.unheld.load tree n).map (·.1) = .ok t
    rw [hload]
    rfl
  rw [hunheld]
  unfold given
  cases hc : e.compiled.lookup n with
  | some u =>
      obtain ⟨origin, ho⟩ := h.used hc
      rw [cached?_file hfile] at ho
      cases ho
      rfl
  | none => rw [cached?_file hfile]

/-- Engines with the same folders that give the same for a name render the same. -/
theorem render_congr (e e' : Engine) {name : Data} (hname : e.nameOf name = e'.nameOf name)
    (hgiven : ∀ n, name = .text n → e.given tree n = e'.given tree n) (context : Entries) :
    (e.render tree name context).2 = (e'.render tree name context).2 := by
  have hbind : (e.nameOf name >>= e.given tree) = (e'.nameOf name >>= e'.given tree) := by
    rw [← hname]
    cases hn : e.nameOf name with
    | error f => rfl
    | ok n => exact hgiven n (nameOf_eq_ok hn)
  rw [render_result, render_result, hbind]

/-- An engine that has read nothing renders the source of a template it holds. -/
theorem render_unread (tree : FileTree) {source : String} (h : e.held.lookup n = some source)
    (context : Entries) :
    (e.unread.render tree (.text n) context).2 = renderSource n source context := by
  have hgiven : e.unread.given tree n = readSource n source := by
    rw [given_unread, load_held h]
    rcases readSource n source with f | t <;> rfl
  rw [render_result]
  show (e.unread.given tree n >>= _) = _
  rw [hgiven]
  rfl

/-- **An engine that was used renders like a new one** with its folders and the templates it holds
    then, except for the templates it overlooks: for these it renders what its folders have. A
    template that was just added is rendered from its source, unless one of its name was read from a
    file before. -/
theorem render_afterAll (tree : FileTree) (folders : List Path) (held : List (String × String))
    (encoding : Data) (calls : List Call) :
    let new := make tree folders held encoding
    let used := new.afterAll tree calls
    used.held = sourcesAfter held calls ∧
      (∀ name context, (∀ n, name = .text n → ¬ Overlooks tree new calls n) →
        (used.render tree name context).2 =
          ((make tree folders (sourcesAfter held calls) encoding).render tree name context).2) ∧
      (∀ n context, Overlooks tree new calls n →
        (used.render tree (.text n) context).2 =
          ((make tree folders [] encoding).render tree (.text n) context).2) ∧
      ∀ n source context, ¬ ReadFromFile tree new calls n →
        ((used.add n source).render tree (.text n) context).2 = renderSource n source context := by
  intro new used
  have hkept : used.Kept tree := kept_afterAll calls (kept_make tree folders held encoding)
  have hread : ∀ n, ReadFromFile tree new calls n ↔ ∃ t, used.cache.lookup n = some (t, .file) :=
    fun n => readFromFile_iff (kept_make tree folders held encoding) rfl calls
  have hheld : used.held = sourcesAfter held calls := held_afterAll calls new
  refine ⟨hheld, fun name context hclear => ?_, fun n context hover => ?_,
    fun n source context hunseen => ?_⟩
  · have hunread : used.unread = make tree folders (sourcesAfter held calls) encoding :=
      unread_afterAll calls new
    rw [← hunread]
    refine render_congr used used.unread rfl (fun n hname => given_kept hkept fun t ht => ?_) context
    rw [hheld]
    exact Option.not_isSome_iff_eq_none.mp
      (not_and.mp (hclear n hname) ((hread n).mpr ⟨t, ht⟩))
  · obtain ⟨t, ht⟩ := (hread n).mp hover.1
    have hunheld : used.unheld = make tree folders [] encoding := unheld_afterAll calls new
    rw [← hunheld]
    refine render_congr used used.unheld rfl (fun m hname => ?_) context
    cases hname
    exact given_file hkept ht
  · have hadded : (used.add n source).held.lookup n = some source := List.lookup_cons_self
    rw [← render_unread tree hadded context]
    refine render_congr (used.add n source) (used.add n source).unread rfl
      (fun m hname => given_kept (kept_add hkept n source) fun t ht => ?_) context
    cases hname
    exact absurd ((hread n).mpr ⟨t, ht⟩) hunseen

/-- A folder with a template. -/
def noteTree : FileTree :=
  ⟨[(["t"], .folder), (["t", "note.j2"], .file "file".toUTF8.toList)], []⟩

/-- An engine with that folder. -/
def noteEngine : Engine := make noteTree [Path.ofString "t"] [] (.text "utf-8")

/-- A template is rendered from its file and then added, another one is added at once. -/
def noteCalls : List Call :=
  [.render (.text "note.j2") [], .add "note.j2" "held", .add "list.j2" "first"]

theorem readFromFile_note : ReadFromFile noteTree noteEngine noteCalls "note.j2" :=
  ⟨[.render (.text "note.j2") []], _, rfl, by decide +kernel, by decide +kernel⟩

theorem not_readFromFile_list : ¬ ReadFromFile noteTree noteEngine noteCalls "list.j2" := by
  intro hread
  obtain ⟨t, ht⟩ := (readFromFile_iff (kept_make ..) rfl noteCalls).mp hread
  have hnone : (noteEngine.afterAll noteTree noteCalls).cache.lookup "list.j2" = none := by
    decide +kernel
  cases hnone.symm.trans ht

theorem render_afterAll_note :
    let used := noteEngine.afterAll noteTree noteCalls
    Overlooks noteTree noteEngine noteCalls "note.j2" ∧
      (used.render noteTree (.text "note.j2") []).2 = .ok "file" ∧
      (used.render noteTree (.text "list.j2") []).2 = .ok "first" ∧
      ((used.add "list.j2" "second").render noteTree (.text "list.j2") []).2 = .ok "second" := by
  intro used
  obtain ⟨hheld, hlike, hover, hadd⟩ :=
    render_afterAll noteTree [Path.ofString "t"] [] (.text "utf-8") noteCalls
  have hnote : Overlooks noteTree noteEngine noteCalls "note.j2" :=
    ⟨readFromFile_note, by decide +kernel⟩
  refine ⟨hnote, (hover "note.j2" [] hnote).trans ?_, (hlike (.text "list.j2") [] ?_).trans ?_,
    (hadd "list.j2" "second" [] not_readFromFile_list).trans ?_⟩
  · decide +kernel
  · rintro n hn ⟨hread, _⟩
    cases hn
    exact not_readFromFile_list hread
  · decide +kernel
  · decide +kernel

/-- **A file stays the template of its name** although the engine was given another one, which an
    engine that is built then renders. -/
theorem file_stays :
    let used := noteEngine.afterAll noteTree noteCalls
    used.held.lookup "note.j2" = some "held" ∧
      (used.render noteTree (.text "note.j2") []).2 = .ok "file" ∧
      ((make noteTree [Path.ofString "t"] used.held (.text "utf-8")).render noteTree
        (.text "note.j2") []).2 = .ok "held" := by
  refine ⟨?_, ?_, ?_⟩ <;> decide +kernel

end Engine

end DomainGen
