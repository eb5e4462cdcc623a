import DomainGen.Proofs.Model.Grammar
import DomainGen.Proofs.Pipeline.FromText
import DomainGen.Proofs.Yaml.Defects
import DomainGen.Proofs.Yaml.Scalars
import DomainGen.Proofs.Yaml.Tokens

/-!
# Texts that fail to load

A text that is not YAML is an error of the loading, and a document that is not a model is an error of the
model. Besides, a YAML text can write something down that is well formed and denotes nothing: a number in
it is too large, a plain scalar looks like a date that does not exist, or a scalar is not of the kind that
its tag says. A key can also be a number that is too large to be a name.

* `Yaml.Flaw` : what in a text denotes nothing; `Yaml.flawed_read` : **a YAML text without a value has
  such a flaw**; `Yaml.read_of_flaw` : **without tags, a text with a flaw has no value**;
* `loadModel` : a text as a model; `ModelFlaw` : what keeps a text from being loaded, apart from errors;
* `loadModel_outcome` : **how loading a text ends**, also as a part of generating its files.
-/

namespace DomainGen

/-! ## 1. What denotes nothing -/

namespace Yaml

/-- What in a YAML text denotes nothing, and the fault that this is. -/
inductive Flaw (text : String) : Fault → Prop where
  /-- The text itself is not read to its end, because of a number in it. -/
  | number {f : Fault} (h : Node.ofTokens? (tokens text.toList) = .error (.fault f))
      (hnumber : Unread text.toList (.fault f)) : Flaw text f
  /-- There is a tag, and something in the document is not of the kind that it has. -/
  | tagged {root n : Node} {f : Fault} (htag : '!' ∈ text.toList)
      (hroot : Node.ofTokens? (tokens text.toList) = .ok (some root)) (h : n.Occurs root)
      (hread : n.readAsScalar = .error (.fault f)) : Flaw text f
  /-- A plain scalar in the document has the form of a kind, and no value of it. -/
  | plain {root : Node} {word : String} {f : Fault}
      (hroot : Node.ofTokens? (tokens text.toList) = .ok (some root))
      (h : (Node.scalar (Tag.ofPlain word) word).Occurs root)
      (hplain : .scalar word true ∈ tokens text.toList) (hword : PlainFault word f) : Flaw text f

variable {text : String}

/-- Where a text fails with a fault, it has a flaw that is this fault. -/
def Flawed (text : String) (e : ReadError) : Prop := ∀ f, e = .fault f → Flaw text f

theorem flawed_malformed : Flawed text .malformed := nofun

/-- What the tokens of a text do not show to be a document has a flaw, or is no YAML text. -/
theorem flawed_of_ofTokens? {e : ReadError} (h : Node.ofTokens? (tokens text.toList) = .error e) :
    Flawed text e := by
  rcases (composed_ofTokens? (tokens text.toList)).fails e h with rfl | hbroken
  · exact flawed_malformed
  · rintro f rfl
    exact .number h (from_tokens hbroken)

/-- What fails in the document of a text is a flaw of the text. -/
theorem flawed_of_defect {root : Node} {e : ReadError}
    (hroot : Node.ofTokens? (tokens text.toList) = .ok (some root)) (h : root.Defect e) :
    Flawed text e := by
  have hcomposed := (composed_ofTokens? (tokens text.toList)).gives _ hroot root rfl
  rcases h with rfl | ⟨n, hn, hread⟩
  · exact flawed_malformed
  · rintro f rfl
    rcases (hcomposed.of_occurs hn).fault hread with ⟨handle, suffix, htag⟩ | ⟨word, hplain, rfl⟩
    · exact .tagged (from_tokens htag) hroot hn hread
    · rw [Node.readAsScalar_scalar] at hread
      exact .plain hroot hn hplain ((readScalar_ofPlain (from_tokens hplain)).mp hread)

/-- **A YAML text without a value has a flaw.** -/
theorem flawed_read (text : String) : FailsAs (Flawed text) (read text) := by
  unfold read
  refine FailsAs.bind_of_ok (fun e he => flawed_of_ofTokens? he) fun content hcontent => ?_
  cases content with
  | none => exact FailsAs.ok _
  | some root =>
      dsimp only
      split
      · rename_i e hdefect
        exact FailsAs.error (flawed_of_defect hcontent (Node.defect_of_defect? hdefect))
      · exact FailsAs.ok _

/-- **Without tags, a text with a flaw has no value.** -/
theorem read_of_flaw (hno : '!' ∉ text.toList) {f : Fault} (h : Flaw text f) (value : Data) :
    read text ≠ .ok value := by
  intro hread
  obtain ⟨content, hcontent, hvalue⟩ := except_bind_eq_ok.mp hread
  cases h with
  | number h _ => cases h.symm.trans hcontent
  | tagged htag _ _ _ => exact hno htag
  | @plain root word _ hroot h hplain hword =>
      cases hroot.symm.trans hcontent
      have hcomposed := (composed_ofTokens? (tokens text.toList)).gives _ hroot root rfl
      have huntagged : root.Untagged := hcomposed.untagged fun ⟨_, _, htag⟩ => hno (from_tokens htag)
      cases hdefect : root.defect? with
      | some e =>
          dsimp only at hvalue
          rw [hdefect] at hvalue
          cases hvalue
      | none =>
          refine Node.sound_of_defect? huntagged hdefect _ h f ?_
          rw [Node.readAsScalar_scalar]
          exact (readScalar_ofPlain (from_tokens hplain)).mpr hword

end Yaml

/-! ## 2. Documents and models -/

/-- A document is read, or refused as no YAML text, or has a flaw. -/
theorem readDocument_ends (text source : String) :
    (∃ value, readDocument text source = .ok value) ∨
      readDocument text source = .error (.loading (.invalidYaml source text)) ∨
      ∃ f, readDocument text source = .error (.fault f) ∧ Yaml.Flaw text f := by
  unfold readDocument
  cases hread : Yaml.read text with
  | ok value => exact .inl ⟨value, rfl⟩
  | error e =>
      cases e with
      | malformed => exact .inr (.inl rfl)
      | fault f => exact .inr (.inr ⟨f, rfl, Yaml.flawed_read text _ hread f rfl⟩)

/-- The model that a text is loaded as. -/
def loadModel (text source : String) : Except Failure Model := do
  Model.ofDocument (← readDocument text source) (some source)

/-- What keeps a text from being loaded, apart from errors: a flaw of the text, or a key that has no
    text and stands for a name. -/
inductive ModelFlaw (text source : String) : Fault → Prop where
  | text {f : Fault} (h : Yaml.Flaw text f) : ModelFlaw text source f
  | nameless {value key : Data} (hvalue : readDocument text source = .ok value)
      (hkey : key ∈ value.namingKeys) (h : key.hasText = false) : ModelFlaw text source .badValue

/-- A document is a model, or refused as none, or a key in it that is a name has no text. -/
theorem ofDocument_ends (document : Data) (source : Option String) :
    (∃ m, Model.ofDocument document source = .ok m) ∨
      (∃ problem, Model.ofDocument document source = .error (.model problem)) ∨
      Model.ofDocument document source = .error (.fault .badValue) ∧
        ∃ key ∈ document.namingKeys, key.hasText = false := by
  rw [ofDocument_eq]
  cases hoffences : document.offences with
  | nil => exact .inl ⟨_, rfl⟩
  | cons first rest =>
      cases first with
      | form problem => exact .inr (.inl ⟨problem, rfl⟩)
      | nameless =>
          have hmem : .nameless ∈ document.offences := hoffences ▸ List.mem_cons_self
          have hkeys := mt (nameless_not_mem_iff document).mpr (not_not.mpr hmem)
          push Not at hkeys
          obtain ⟨key, hkey, h⟩ := hkeys
          exact .inr (.inr ⟨rfl, key, hkey, Bool.eq_false_iff.mpr h⟩)

/-- A model is loaded, or refused as no YAML text or no model, or has a flaw. -/
theorem loadModel_ends (text source : String) :
    (∃ m, loadModel text source = .ok m) ∨
      loadModel text source = .error (.loading (.invalidYaml source text)) ∨
      (∃ problem, loadModel text source = .error (.model problem)) ∨
      ∃ f, loadModel text source = .error (.fault f) ∧ ModelFlaw text source f := by
  unfold loadModel
  rcases readDocument_ends text source with ⟨value, hvalue⟩ | hmalformed | ⟨f, hf, hflaw⟩
  · rcases ofDocument_ends value (some source) with ⟨m, hm⟩ | ⟨problem, hproblem⟩ | ⟨hf, key, hkey, h⟩
    · exact .inl ⟨m, except_bind_eq_ok.mpr ⟨value, hvalue, hm⟩⟩
    · exact .inr (.inr (.inl ⟨problem, except_bind_eq_error.mpr (.inr ⟨value, hvalue, hproblem⟩)⟩))
    · exact .inr (.inr (.inr ⟨.badValue, except_bind_eq_error.mpr (.inr ⟨value, hvalue, hf⟩),
        .nameless hvalue hkey h⟩))
  · exact .inr (.inl (except_bind_eq_error.mpr (.inl hmalformed)))
  · exact .inr (.inr (.inr ⟨f, except_bind_eq_error.mpr (.inl hf), .text hflaw⟩))

/-- A text that has a value as a document has it as YAML. -/
theorem readDocument_eq_ok {text source : String} {value : Data} :
    readDocument text source = .ok value ↔ Yaml.read text = .ok value := by
  unfold readDocument
  cases Yaml.read text with
  | ok _ =>
      exact ⟨fun h => congrArg Except.ok (Except.ok.inj h),
        fun h => congrArg Except.ok (Except.ok.inj h)⟩
  | error e => cases e <;> exact ⟨(nomatch ·), (nomatch ·)⟩

/-- **Without tags, a text with a flaw, or with a key that cannot be a name, is no model.** -/
theorem loadModel_of_flaw {text source : String} (hno : '!' ∉ text.toList) {f : Fault}
    (h : ModelFlaw text source f) (m : Model) : loadModel text source ≠ .ok m := by
  intro hload
  obtain ⟨value, hvalue, hm⟩ := except_bind_eq_ok.mp hload
  cases h with
  | text h => exact Yaml.read_of_flaw hno h value (readDocument_eq_ok.mp hvalue)
  | nameless hvalue' hkey h =>
      cases hvalue.symm.trans hvalue'
      rw [ofDocument_eq, firstOr_eq_ok, offences_eq_nil_iff] at hm
      exact absurd (hm.1.2 _ hkey) (Bool.eq_false_iff.mp h)

/-! ## 3. Main result -/

variable {tree : FileTree} {c : Config} {e : Engine} {g : Generator} {text source : String}

/-- A text that cannot be loaded has no files, for the same reason. -/
theorem generateFromText_unloaded (he : Pipeline.engineOf tree c = .ok e)
    (hg : Generator.ofConfig tree.workingFolder c = .ok g) {failure : Failure}
    (h : loadModel text source = .error failure) :
    generateFromText tree c text source = .error failure := by
  rw [generateFromText_eq he hg]
  unfold Generator.generateText
  rcases except_bind_eq_error.mp h with h | ⟨value, hvalue, h⟩
  · rw [h]
    rfl
  · rw [hvalue]
    dsimp only [bind, Except.bind]
    rw [h]

/-- **How loading a text ends.** A text has a value, or is refused as no YAML text, or has a flaw. As a
    model it is loaded, or refused as no YAML text or as no model, or has a flaw or a key that cannot be
    a name. Of texts without tags, those with a flaw have no value, and those with a flaw or such a key
    are no models. Generating the files of a text, once there is an engine, fails as its loading does. -/
theorem loadModel_outcome (text source : String) :
    ((∃ value, readDocument text source = .ok value) ∨
      readDocument text source = .error (.loading (.invalidYaml source text)) ∨
      ∃ f, readDocument text source = .error (.fault f) ∧ Yaml.Flaw text f) ∧
    ((∃ m, loadModel text source = .ok m) ∨
      loadModel text source = .error (.loading (.invalidYaml source text)) ∨
      (∃ problem, loadModel text source = .error (.model problem)) ∨
      ∃ f, loadModel text source = .error (.fault f) ∧ ModelFlaw text source f) ∧
    ('!' ∉ text.toList → (∀ f, Yaml.Flaw text f → ∀ value, readDocument text source ≠ .ok value) ∧
      ∀ f, ModelFlaw text source f → ∀ m, loadModel text source ≠ .ok m) ∧
    ∀ (tree : FileTree) (c : Config) (e : Engine) (g : Generator),
      Pipeline.engineOf tree c = .ok e → Generator.ofConfig tree.workingFolder c = .ok g →
      ∀ failure, loadModel text source = .error failure →
        generateFromText tree c text source = .error failure :=
  ⟨readDocument_ends text source, loadModel_ends text source,
    fun hno => ⟨fun _ h value hvalue => Yaml.read_of_flaw hno h value (readDocument_eq_ok.mp hvalue),
      fun _ h => loadModel_of_flaw hno h⟩,
    fun _ _ _ _ he hg _ h => generateFromText_unloaded he hg h⟩

/-- A model of which a date does not exist. -/
def noSuchDay : String := "aggregates: {order: {since: 2001-02-30}}"

theorem loadModel_outcome_noSuchDay : '!' ∉ noSuchDay.toList ∧ ModelFlaw noSuchDay "m" .badValue ∧
    (∀ m, loadModel noSuchDay "m" ≠ .ok m) ∧ ∃ e g,
      Pipeline.engineOf sketchTree sketchConfig = .ok e ∧
      Generator.ofConfig sketchTree.workingFolder sketchConfig = .ok g ∧
      generateFromText sketchTree sketchConfig noSuchDay "m" = .error (.fault .badValue) := by
  have hno : '!' ∉ noSuchDay.toList := by decide +kernel
  have hload : loadModel noSuchDay "m" = .error (.fault .badValue) := by decide +kernel
  obtain ⟨e, he⟩ : ∃ e, Pipeline.engineOf sketchTree sketchConfig = .ok e :=
    exists_ok_of_isSome (by decide +kernel)
  obtain ⟨g, hg⟩ : ∃ g, Generator.ofConfig sketchTree.workingFolder sketchConfig = .ok g :=
    exists_ok_of_isSome (by decide +kernel)
  obtain ⟨_, hends, hnone, hfiles⟩ := loadModel_outcome noSuchDay "m"
  rw [hload] at hends
  have hflaw : ModelFlaw noSuchDay "m" .badValue := by
    rcases hends with ⟨_, h⟩ | h | ⟨_, h⟩ | ⟨_, h, hflaw⟩ <;> cases h
    exact hflaw
  exact ⟨hno, hflaw, (hnone hno).2 _ hflaw, e, g, he, hg, hfiles _ _ e g he hg _ hload⟩

/-- A YAML text with a date that does not exist is not refused as such. -/
theorem readDocument_noSuchDay : readDocument "a: 2001-02-30" "m" = .error (.fault .badValue) := by
  decide +kernel

end DomainGen
