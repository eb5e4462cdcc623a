import DomainGen.Proofs.FileTree.Reading
import DomainGen.Template.Engine

/-!
# Engines that have read templates

An engine keeps the templates it reads. Which template it gives for a name does not depend on what
it was asked for before, so an engine that was used takes the place of one that was not.

To give a template an engine reads its file in the encoding of the engine and takes the text apart. A
template that is not there is missing. Where there is a file, its bytes can be no text in the encoding,
and the text can be no template.

* `Engine.unread` : what an engine was made of; `Engine.given` : what it gives for a name;
* `Engine.Alike` : two engines are made of the same and give the same;
* `alike_compile`, `alike_compileAll`, `alike_render` : **an engine that is used stays as good as it
  was**;
* `Alike.compile`, `Alike.compileAll`, `Alike.render` : engines that are alike do the same;
* `templateFile?` : the file of a template; `FileError`, `source?_eq_error` : **why it cannot be read**;
* `HasDefect`, `given_eq_error` : **why a source gives no template**;
* `exists_given_error` : a template that is missing or has a defect is not given.
-/

namespace DomainGen

namespace Engine

variable {tree : FileTree} {e e' e'' : Engine}

/-! ## 1. What an engine gives -/

/-- The engine without what it has read. -/
def unread (e : Engine) : Engine := { e with compiled := [], cache := [] }

/-- What an engine gives for a name: the template in use, the one that was read before, or the one
    that is read now. -/
def given (e : Engine) (tree : FileTree) (name : String) : Except Failure Template :=
  match e.compiled.lookup name with
  | some t => .ok t
  | none => match e.cached? name with
    | some (t, _) => .ok t
    | none => (e.load tree name).map (·.1)

/-- Two engines are made of the same and give the same for every name. -/
structure Alike (tree : FileTree) (e e' : Engine) : Prop where
  unread_eq : e.unread = e'.unread
  given_eq : ∀ name, e.given tree name = e'.given tree name

theorem Alike.refl (tree : FileTree) (e : Engine) : Alike tree e e := ⟨rfl, fun _ => rfl⟩

theorem Alike.symm (h : Alike tree e e') : Alike tree e' e :=
  ⟨h.unread_eq.symm, fun name => (h.given_eq name).symm⟩

theorem Alike.trans (h : Alike tree e e') (h' : Alike tree e' e'') : Alike tree e e'' :=
  ⟨h.unread_eq.trans h'.unread_eq, fun name => (h.given_eq name).trans (h'.given_eq name)⟩

theorem nameOf_unread (e : Engine) (name : Data) : e.unread.nameOf name = e.nameOf name := rfl

/-- Only a text is a name. -/
theorem nameOf_eq_ok {name : Data} {n : String} (h : e.nameOf name = .ok n) : name = .text n := by
  unfold nameOf at h
  split at h
  · cases h
    rfl
  · split at h
    · cases h
    · split at h
      · cases h
      · split at h <;> cases h

theorem provides_unread (e : Engine) (tree : FileTree) (name : Data) :
    e.unread.provides tree name = e.provides tree name := rfl

/-- **The result of reading a template** is that of its name, or what is given for it. -/
theorem compile_result (e : Engine) (tree : FileTree) (name : Data) :
    (e.compile tree name).2 = e.nameOf name >>= e.given tree := by
  unfold compile
  cases e.nameOf name with
  | error f => rfl
  | ok n =>
      show _ = e.given tree n
      unfold given
      dsimp only
      cases e.compiled.lookup n with
      | some t => rfl
      | none =>
          cases e.cached? n with
          | some found => rfl
          | none => cases e.load tree n with
            | error f => rfl
            | ok found => rfl

/-! ## 2. Reading -/

/-- What reading a template does: nothing, or a template that was not in use is from now on. It may
    have been read before; if not, it is read now and remembered. -/
theorem compile_reads (e : Engine) (tree : FileTree) (name : Data) :
    (e.compile tree name).1 = e ∨ ∃ n t origin, e.compiled.lookup n = none ∧
      ((e.cached? n = some (t, origin) ∧
          (e.compile tree name).1 = { e with compiled := (n, t) :: e.compiled }) ∨
        (e.cached? n = none ∧ e.load tree n = .ok (t, origin) ∧ (e.compile tree name).1 =
          { e with compiled := (n, t) :: e.compiled, cache := (n, t, origin) :: e.cache })) := by
  unfold compile
  cases e.nameOf name with
  | error f => exact Or.inl rfl
  | ok n =>
      dsimp only
      cases hc : e.compiled.lookup n with
      | some t => exact Or.inl rfl
      | none =>
          cases hk : e.cached? n with
          | some found => exact Or.inr ⟨n, found.1, found.2, hc, Or.inl ⟨hk, rfl⟩⟩
          | none => cases hl : e.load tree n with
            | error f => exact Or.inl rfl
            | ok found => exact Or.inr ⟨n, found.1, found.2, hc, Or.inr ⟨hk, hl, rfl⟩⟩

theorem lookup_cons_ne {β : Type} {k : String} (hn : n ≠ k) (b : β) (entries : List (String × β)) :
    List.lookup n ((k, b) :: entries) = entries.lookup n := by
  rw [List.lookup_cons, beq_eq_false_iff_ne.mpr hn]

/-- **A template in use stays in use** while templates are read. -/
theorem compiled_compile {n : String} {t : Template} (h : e.compiled.lookup n = some t)
    (tree : FileTree) (name : Data) : (e.compile tree name).1.compiled.lookup n = some t := by
  have hcons : ∀ {k : String} (u : Template), e.compiled.lookup k = none →
      List.lookup n ((k, u) :: e.compiled) = some t := by
    intro k u hk
    have hne : n ≠ k := by
      rintro rfl
      cases hk.symm.trans h
    exact (lookup_cons_ne hne u e.compiled).trans h
  rcases compile_reads e tree name with hsame | ⟨k, u, _, hk, ⟨_, hnext⟩ | ⟨_, _, hnext⟩⟩
  · rw [hsame]
    exact h
  · rw [hnext]
    exact hcons u hk
  · rw [hnext]
    exact hcons u hk

/-- What is read is what was given before. -/
theorem compile_cases (e : Engine) (tree : FileTree) (name : Data) :
    (e.compile tree name).1 = e ∨ ∃ n t, e.given tree n = .ok t ∧
      ((e.compile tree name).1 = { e with compiled := (n, t) :: e.compiled } ∨
        ∃ origin, (e.compile tree name).1 =
          { e with compiled := (n, t) :: e.compiled, cache := (n, t, origin) :: e.cache }) := by
  rcases compile_reads e tree name with
    h | ⟨n, t, origin, hc, ⟨hk, h⟩ | ⟨hk, hl, h⟩⟩
  · exact Or.inl h
  · exact Or.inr ⟨n, t, by simp only [given, hc, hk], Or.inl h⟩
  · exact Or.inr ⟨n, t, by simp only [given, hc, hk, hl, Except.map], Or.inr ⟨origin, h⟩⟩

/-- An engine in which the template that is given for a name is in use gives the same as before. -/
theorem given_cons {n : String} {t : Template} (h : e.given tree n = .ok t)
    {cache : List (String × Template × Template.Origin)}
    (hcache : ∀ name, name ≠ n → cache.lookup name = e.cache.lookup name) (name : String) :
    Engine.given { e with compiled := (n, t) :: e.compiled, cache := cache } tree name =
      e.given tree name := by
  by_cases hn : name = n
  · rw [hn, h]
    unfold given
    rw [List.lookup_cons_self]
  · have hlookup : List.lookup name ((n, t) :: e.compiled) = e.compiled.lookup name := by
      rw [List.lookup_cons, beq_eq_false_iff_ne.mpr hn]
    unfold given cached?
    dsimp only
    rw [hlookup, hcache name hn]
    rfl

/-- **Reading a template leaves an engine as good as it was.** -/
theorem alike_compile (e : Engine) (tree : FileTree) (name : Data) :
    Alike tree e (e.compile tree name).1 := by
  rcases compile_cases e tree name with h | ⟨n, t, ht, h | ⟨origin, h⟩⟩
  · rw [h]
    exact .refl tree e
  · rw [h]
    exact ⟨rfl, fun name => (given_cons ht (fun _ _ => rfl) name).symm⟩
  · rw [h]
    refine ⟨rfl, fun name => (given_cons ht (fun other hn => ?_) name).symm⟩
    rw [List.lookup_cons, beq_eq_false_iff_ne.mpr hn]

theorem alike_compileAll (tree : FileTree) : ∀ (names : List Data) (e : Engine) (done : List Data),
    Alike tree e (compileAll tree e names done).1
  | [], e, _ => .refl tree e
  | name :: rest, e, done => by
      unfold compileAll
      have hread := alike_compile e tree name
      split
      · exact alike_compileAll tree rest e done
      · rcases hc : e.compile tree name with ⟨next, f | t⟩ <;> rw [hc] at hread
        · exact hread
        · exact hread.trans (alike_compileAll tree rest next _)

theorem render_fst (e : Engine) (tree : FileTree) (name : Data) (context : Entries) :
    (e.render tree name context).1 = (e.compile tree name).1 := by
  unfold render
  rcases e.compile tree name with ⟨next, f | t⟩ <;> rfl

/-- The result of rendering is that of the template that is given for the name. -/
theorem render_result (e : Engine) (tree : FileTree) (name : Data) (context : Entries) :
    (e.render tree name context).2 = (e.nameOf name >>= e.given tree) >>= fun t =>
      (t.render context).mapError fun f => .template (.notRendered (some name.plain) t context f) := by
  rw [← compile_result]
  unfold render
  rcases e.compile tree name with ⟨next, f | t⟩ <;> rfl

theorem alike_render (e : Engine) (tree : FileTree) (name : Data) (context : Entries) :
    Alike tree e (e.render tree name context).1 := by
  have hread := alike_compile e tree name
  unfold render
  rcases hc : e.compile tree name with ⟨next, f | t⟩ <;> rw [hc] at hread <;> exact hread

/-! ## 3. Engines that are alike -/

namespace Alike

theorem nameOf_eq (h : Alike tree e e') (name : Data) : e.nameOf name = e'.nameOf name := by
  rw [← nameOf_unread, h.unread_eq, nameOf_unread]

theorem provides_eq (h : Alike tree e e') (name : Data) :
    e.provides tree name = e'.provides tree name := by
  rw [← provides_unread, h.unread_eq, provides_unread]

/-- Engines that are alike read the same template and are alike then. -/
theorem compile (h : Alike tree e e') (name : Data) :
    Alike tree (e.compile tree name).1 (e'.compile tree name).1 ∧
      (e.compile tree name).2 = (e'.compile tree name).2 := by
  refine ⟨(alike_compile e tree name).symm.trans (h.trans (alike_compile e' tree name)), ?_⟩
  rw [compile_result, compile_result, h.nameOf_eq name, funext h.given_eq]

theorem compileAll : ∀ (names done : List Data) {e e' : Engine}, Alike tree e e' →
    Alike tree (Engine.compileAll tree e names done).1 (Engine.compileAll tree e' names done).1 ∧
      (Engine.compileAll tree e names done).2 = (Engine.compileAll tree e' names done).2
  | [], _, _, _, h => ⟨h, rfl⟩
  | name :: rest, done, e, e', h => by
      obtain ⟨hstate, hresult⟩ := h.compile name
      unfold Engine.compileAll
      split
      · exact h.compileAll rest done
      · rcases hp : e.compile tree name with ⟨a, f | t⟩ <;>
          rcases hq : e'.compile tree name with ⟨b, f' | t'⟩ <;>
          rw [hp, hq] at hstate hresult <;> cases hresult
        · exact ⟨hstate, rfl⟩
        · exact hstate.compileAll rest _

/-- **Engines that are alike render the same text** or fail alike, and are alike then. -/
theorem render (h : Alike tree e e') (name : Data) (context : Entries) :
    Alike tree (e.render tree name context).1 (e'.render tree name context).1 ∧
      (e.render tree name context).2 = (e'.render tree name context).2 := by
  obtain ⟨hstate, hresult⟩ := h.compile name
  unfold Engine.render
  rcases hp : e.compile tree name with ⟨a, f | t⟩ <;>
    rcases hq : e'.compile tree name with ⟨b, f' | t'⟩ <;>
    rw [hp, hq] at hstate hresult <;> cases hresult <;> exact ⟨hstate, rfl⟩

end Alike

/-! ## 4. Files that cannot be read -/

/-- The file that the template of a name is read from. -/
def templateFile? (tree : FileTree) (folders : List Path) (name : String) : Option Path :=
  (nameComponents? name).bind fun components => fileIn? tree components folders

/-- The file of a template is there but cannot be read: there is no such encoding, or the bytes are no
    text in it. -/
inductive FileError (tree : FileTree) (folders : List Path) (encoding name : String) : Fault → Prop where
  | encoding {p : Path} {f : Fault} (hp : templateFile? tree folders name = some p)
      (h : Encoding.ofName encoding = .error f) : FileError tree folders encoding name f
  | bytes {p : Path} {f : Fault} {form : Encoding} {content : List UInt8}
      (hp : templateFile? tree folders name = some p) (hform : Encoding.ofName encoding = .ok form)
      (hread : tree.read p = .ok content) (h : form.decode content = .error f) :
      FileError tree folders encoding name f

/-- The file that is found is one. -/
theorem isFile_of_fileIn? {components : List String} : ∀ {folders : List Path} {p : Path},
    fileIn? tree components folders = some p → tree.isFile p = true
  | [], _, h => by cases h
  | folder :: rest, p, h => by
      unfold fileIn? at h
      dsimp only at h
      split at h
      · rename_i hfile
        cases h
        exact hfile
      · exact isFile_of_fileIn? h

/-- **When a template cannot be looked for.** -/
theorem source?_eq_error {encoding n : String} {f : Fault} (hheld : e.held = [])
    (hencoding : e.encoding = .text encoding) :
    e.source? tree n = .error f ↔ FileError tree e.folders encoding n f := by
  have hsource : e.source? tree n = (templateFile? tree e.folders n).elim (.ok none) fun p =>
      (tree.readText p encoding).map fun s => some (s, .file) := by
    unfold source? encodingName templateFile?
    rw [hheld, hencoding]
    dsimp only [List.lookup]
    cases (nameComponents? n).bind fun cs => fileIn? tree cs e.folders with
    | none => rfl
    | some p => rfl
  rw [hsource]
  cases hp : templateFile? tree e.folders n with
  | none =>
      constructor
      · intro h
        cases h
      · intro h
        cases h with
        | encoding hp' => cases hp.symm.trans hp'
        | bytes hp' => cases hp.symm.trans hp'
  | some p =>
      obtain ⟨_, _, hfile⟩ := Option.bind_eq_some_iff.mp hp
      obtain ⟨content, hread⟩ := FileTree.read_of_isFile (isFile_of_fileIn? hfile)
      rw [Option.elim_some, except_map_eq_error, FileTree.readText_eq_error hread]
      constructor
      · rintro (h | ⟨form, hform, h⟩)
        · exact .encoding hp h
        · exact .bytes hp hform hread h
      · intro h
        cases h with
        | encoding _ h => exact .inl h
        | bytes hp' hform hread' h =>
            cases hp.symm.trans hp'
            cases hread.symm.trans hread'
            exact .inr ⟨_, hform, h⟩

/-! ## 5. Sources with defects -/

/-- The source of a template is there and has a defect. -/
def HasDefect (tree : FileTree) (e : Engine) (n : String) (d : Template.Defect) : Prop :=
  ∃ source origin, e.source? tree n = .ok (some (source, origin)) ∧
    Template.ofSource (some n) (escapes n) source = .error d

/-- How reading a template with a defect fails. -/
def defectFailure (n source : String) : Template.Defect → Failure
  | .form => .template (.invalid n source)
  | .fault f => .fault f

/-- **An engine that has read nothing gives no template where the source has a defect.** -/
theorem given_eq_error {n : String} {f : Failure} {found : String × Template.Origin}
    (hnew : e.unread = e) (hfound : e.source? tree n = .ok (some found)) :
    e.given tree n = .error f ↔ ∃ d, HasDefect tree e n d ∧ f = defectFailure n found.1 d := by
  have hload : e.given tree n = (e.load tree n).map (·.1) := by
    unfold unread at hnew
    rw [← hnew]
    rfl
  obtain ⟨source, origin⟩ := found
  have hsource : ∀ {d}, HasDefect tree e n d ↔
      Template.ofSource (some n) (escapes n) source = .error d := by
    intro d
    constructor
    · rintro ⟨source', origin', hfound', h⟩
      cases hfound.symm.trans hfound'
      exact h
    · exact fun h => ⟨source, origin, hfound, h⟩
  simp only [hsource]
  rw [hload]
  unfold load
  rw [hfound]
  dsimp only
  cases Template.ofSource (some n) (escapes n) source with
  | ok t =>
      constructor
      · intro h
        cases h
      · rintro ⟨_, h, _⟩
        cases h
  | error d =>
      constructor
      · intro h
        cases d <;> cases h <;> exact ⟨_, rfl, rfl⟩
      · rintro ⟨_, h, rfl⟩
        cases h
        cases d <;> rfl

/-- A template that is missing or has a defect is not given. -/
theorem exists_given_error {n : String} (hnew : e.unread = e)
    (h : e.source? tree n = .ok none ∨ ∃ d, HasDefect tree e n d) :
    ∃ f, e.given tree n = .error f := by
  rcases h with hnone | ⟨d, hd⟩
  · refine ⟨.template (.notFound n), ?_⟩
    rw [← hnew] at hnone ⊢
    unfold given load
    rw [hnone]
    rfl
  · obtain ⟨source, origin, hfound, hdefect⟩ := hd
    exact ⟨_, (given_eq_error hnew hfound).mpr ⟨d, ⟨source, origin, hfound, hdefect⟩, rfl⟩⟩

end Engine

end DomainGen
