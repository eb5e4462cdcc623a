import DomainGen.Proofs.Config.Faults

/-!
# How loading a configuration ends

A configuration is loaded from explicit entries, a file and the name of a set. It ends in a
configuration, in a configuration error that says what is wrong, or in a fault where what is wrong
cannot be told: a key that is no text, a section that is no mapping, a file that is no text.

* `LoadFault`, `load_fault` : **exactly when loading ends in a fault**;
* `legible`, `not_resolveFault` : entries that make none;
* `map_naming_layers` : which roles have policies;
* `load_outcome` : all of it, with what a configuration has that was loaded;
* `namesTemplates` : are the folder of templates, their encoding and their names texts in some settings?
  `namesTemplates_load` : **they are in what is loaded if they are in its layers**.
-/

namespace DomainGen

open Data Entries

namespace Config

variable {tree : FileTree} {es fs : Entries} {file : Option String} {asked : Option String}
  {c : Config} {set : String}

/-! ## 1. Faults -/

/-- The entries of a file, if one is named. -/
def fromFile (tree : FileTree) : Option String → Except Failure Entries
  | none => .ok []
  | some "" => .ok []
  | some name => readConfigFile tree name

theorem fromFile_some {name : String} (h : name ≠ "") :
    fromFile tree (some name) = readConfigFile tree name := by
  unfold fromFile
  split
  · rename_i heq
    cases heq
  · rename_i heq
    exact absurd (Option.some.inj heq) h
  · rename_i heq
    rw [Option.some.inj heq]

/-- Explicit entries are resolved over those of the file. -/
theorem load_mapping (tree : FileTree) (es : Entries) (file asked : Option String) :
    load tree (.mapping es) file asked = fromFile tree file >>= fun fs => resolve es fs asked := by
  have hgiven : overridesOf (.mapping es) = .ok es := by
    cases es <;> rfl
  unfold load
  rw [hgiven]
  rcases file with _ | name
  · rfl
  by_cases hname : name = ""
  · subst hname
    rfl
  · rw [fromFile_some hname]
    split
    · rename_i heq
      cases heq
    · rename_i heq
      exact absurd (Option.some.inj heq) hname
    · rename_i heq
      cases heq
      rfl

/-- The file ends in a fault, or its entries and the explicit ones do. -/
inductive LoadFault (tree : FileTree) (es : Entries) (file asked : Option String) : Fault → Prop where
  /-- The file. -/
  | file {name f} (hname : file = some name) (hne : name ≠ "") (h : FileFault tree name f) :
      LoadFault tree es file asked f
  /-- The entries. -/
  | entries {fs f} (hfs : fromFile tree file = .ok fs) (h : ResolveFault es fs asked f) :
      LoadFault tree es file asked f

theorem fromFile_fault {f : Fault} : fromFile tree file = .error (.fault f) ↔
    ∃ name, file = some name ∧ name ≠ "" ∧ FileFault tree name f := by
  constructor
  · intro h
    unfold fromFile at h
    split at h
    · cases h
    · cases h
    · rename_i name hne
      exact ⟨name, rfl, fun heq => hne (heq ▸ rfl), readConfigFile_fault.mp h⟩
  · rintro ⟨name, rfl, hne, h⟩
    rw [fromFile_some hne]
    exact readConfigFile_fault.mpr h

/-- **Loading ends in a fault exactly if the file or the entries do.** -/
theorem load_fault {f : Fault} : load tree (.mapping es) file asked = .error (.fault f) ↔
    LoadFault tree es file asked f := by
  rw [load_mapping, except_bind_eq_error, fromFile_fault]
  constructor
  · rintro (⟨name, hname, hne, h⟩ | ⟨fs, hfs, h⟩)
    · exact .file hname hne h
    · exact .entries hfs (resolve_fault.mp h)
  · intro h
    cases h with
    | file hname hne h => exact .inl ⟨_, hname, hne, h⟩
    | entries hfs h => exact .inr ⟨_, hfs, resolve_fault.mpr h⟩

/-- Loading fails with a configuration error or a fault. -/
theorem failsAs_load (tree : FileTree) (es : Entries) (file asked : Option String) :
    FailsAs Failure.IsOfSettings (load tree (.mapping es) file asked) := by
  have hfile : FailsAs Failure.IsOfSettings (fromFile tree file) := by
    unfold fromFile
    split
    · exact .ok _
    · exact .ok _
    · exact failsAs_readConfigFile _ _
  rw [load_mapping]
  exact hfile.bind fun fs => failsAs_resolve _ _ _

theorem textsOnce_fromFile (h : fromFile tree file = .ok fs) : fs.TextsOnce := by
  unfold fromFile at h
  split at h
  · cases h
    exact List.nodup_nil
  · cases h
    exact List.nodup_nil
  · obtain ⟨_, _, _, _, hholds⟩ := holds_of_readConfigFile h
    exact hholds.textsOnce

/-! ## 2. Entries without faults -/

/-- Is the value a mapping, or does it count as false? -/
def isOptional (v : Data) : Bool := !v.isTrue || v.entries?.isSome

/-- Are the names of roles and options texts, the templates and the custom entries mappings, and can
    the set be told? -/
def legible (es : Entries) : Bool :=
  (es.get? "naming").all (·.namedTo 2) &&
    ((es.get? "templates").all fun v => isOptional v && v.namedTo 1) &&
    (es.get? "custom").all isOptional &&
    (es.get? "template_set").all fun v => !v.isTrue || (v.hashable && v.hasText)

theorem legible_iff : legible es = true ↔
    (es.get? "naming").all (·.namedTo 2) = true ∧
      (es.get? "templates").all (fun v => isOptional v && v.namedTo 1) = true ∧
      (es.get? "custom").all isOptional = true ∧
      (es.get? "template_set").all (fun v => !v.isTrue || (v.hashable && v.hasText)) = true := by
  unfold legible
  simp only [Bool.and_eq_true, and_assoc]

theorem legible_setDefaults : ∀ set ∈ templateSets, legible (setDefaults set) = true := by
  decide

theorem isOptional_mergeValue {v : Data} {old : Option Data} (h : isOptional v = true) :
    isOptional (mergeValue old v) = true := by
  cases v with
  | mapping es =>
      have hmapping : ∀ es, isOptional (.mapping es) = true := fun es => Bool.or_true _
      unfold mergeValue
      split <;> exact hmapping _
  | _ => exact h

/-- A fact about values that merging keeps holds of what overrides and of what is overridden. -/
theorem all_overlay {P : Data → Bool}
    (hP : ∀ v old, P v = true → Option.all P old = true → P (mergeValue old v) = true)
    {old new : Option Data} (hold : old.all P = true) (hnew : new.all P = true) :
    (overlay old new).all P = true := by
  cases new with
  | none => exact hold
  | some v => exact hP v old hnew hold

/-- A setting other than the set, in the entries of all layers. -/
theorem get?_layers (hes : es.TextsOnce) (hfs : fs.TextsOnce) {name : String}
    (hname : "template_set" ≠ name) : (mergedLayers set es fs).get? name =
      overlay (overlay ((setDefaults set).get? name) (fs.get? name)) (es.get? name) := by
  unfold mergedLayers
  rw [get?_set_other _ _ hname, get?_mergeEntries_texts hes, get?_mergeEntries_texts hfs]

/-- A fact that merging keeps holds of a setting of all layers if it holds in each of them. -/
theorem all_layers {P : Data → Bool}
    (hP : ∀ v old, P v = true → Option.all P old = true → P (mergeValue old v) = true)
    (hes : es.TextsOnce) (hfs : fs.TextsOnce) {name : String} (hname : "template_set" ≠ name)
    (h : ((setDefaults set).get? name).all P = true) (hfile : (fs.get? name).all P = true)
    (hover : (es.get? name).all P = true) : ((mergedLayers set es fs).get? name).all P = true := by
  rw [get?_layers hes hfs hname]
  exact all_overlay hP (all_overlay hP h hfile) hover

theorem namedTo_mergeValue_all {depth : Nat} (v : Data) (old : Option Data)
    (hv : v.namedTo depth = true) (hold : old.all (·.namedTo depth) = true) :
    (mergeValue old v).namedTo depth = true :=
  namedTo_mergeValue hv fun x hx => by
    cases hx
    exact hold

/-- A value that is optional has no fault when it is read as entries. -/
theorem not_asEntries_error {v : Data} {f : Fault} (h : isOptional v = true) (htrue : v.isTrue = true) :
    v.asEntries ≠ .error f := by
  intro hf
  unfold isOptional at h
  rw [htrue] at h
  cases v with
  | mapping es => cases hf
  | _ => cases h

theorem isOptional_mergeNamed {depth : Nat} (v : Data) (old : Option Data)
    (hv : (isOptional v && v.namedTo depth) = true)
    (hold : old.all (fun v => isOptional v && v.namedTo depth) = true) :
    (isOptional (mergeValue old v) && (mergeValue old v).namedTo depth) = true := by
  obtain ⟨hoptional, hnamed⟩ := Bool.and_eq_true_iff.mp hv
  refine Bool.and_eq_true_iff.mpr ⟨isOptional_mergeValue hoptional,
    namedTo_mergeValue_all v old hnamed ?_⟩
  cases old with
  | none => rfl
  | some x => exact (Bool.and_eq_true_iff.mp hold).2

/-- If the names of roles and options are texts, no policy makes a fault. -/
theorem not_namingFault (h : (es.get? "naming").all (·.namedTo 2) = true) : ¬ NamingFault es := by
  intro hfault
  cases hfault with
  | role hroles htexts =>
      rw [hroles] at h
      have hnamed := hasTexts_iff.mpr fun e he => (namedTo_mapping.mp h e he).1
      rw [htexts] at hnamed
      cases hnamed
  | option hroles _ _ htexts =>
      rw [hroles] at h
      have hoptions := (namedTo_mapping.mp h _ (List.mem_append_right _ List.mem_cons_self)).2
      have hnamed := hasTexts_iff.mpr fun e he => (namedTo_mapping.mp hoptions e he).1
      rw [htexts] at hnamed
      cases hnamed

/-- If the templates are a mapping whose keys are texts, or count as false, they make no fault. -/
theorem not_templatesFault {f : Fault}
    (h : (es.get? "templates").all (fun v => isOptional v && v.namedTo 1) = true) :
    ¬ TemplatesFault es f := by
  intro hfault
  cases hfault with
  | value hv htrue hf =>
      rw [hv] at h
      exact not_asEntries_error (Bool.and_eq_true_iff.mp h).1 htrue hf
  | role hgiven htexts =>
      cases hv : es.get? "templates" with
      | none =>
          rw [hv] at hgiven
          cases hgiven
          cases htexts
      | some v =>
          rw [hv] at hgiven h
          obtain ⟨hoptional, hnamed⟩ := Bool.and_eq_true_iff.mp h
          unfold optionalEntries at hgiven
          dsimp only at hgiven
          cases htrue : v.isTrue with
          | false =>
              rw [htrue] at hgiven
              cases hgiven
              cases htexts
          | true =>
              unfold isOptional at hoptional
              rw [htrue] at hoptional hgiven
              cases v with
              | mapping given =>
                  cases hgiven
                  have hall := hasTexts_iff.mpr fun e he => (namedTo_mapping.mp hnamed e he).1
                  rw [htexts] at hall
                  cases hall
              | _ => cases hoptional

variable (asked) in
/-- The set that is chosen can be told if those that are named can. -/
theorem chosenSet_legible
    (hover : (es.get? "template_set").all (fun v => !v.isTrue || (v.hashable && v.hasText)) = true)
    (hfile : (fs.get? "template_set").all (fun v => !v.isTrue || (v.hashable && v.hasText)) = true) :
    (chosenSet es fs asked).hashable = true ∧ (chosenSet es fs asked).hasText = true := by
  have hfirst : ∀ {x : Option Data} {default : Data} {rest : List (Option Data)},
      x.all (fun v => !v.isTrue || (v.hashable && v.hasText)) = true →
      ((firstTrue default rest).hashable = true ∧ (firstTrue default rest).hasText = true) →
      (firstTrue default (x :: rest)).hashable = true ∧
        (firstTrue default (x :: rest)).hasText = true := by
    intro x default rest hx hrest
    cases x with
    | none => exact hrest
    | some v =>
        rw [firstTrue]
        cases htrue : v.isTrue with
        | false => exact hrest
        | true =>
            rw [Option.all_some, htrue] at hx
            exact Bool.and_eq_true_iff.mp hx
  refine hfirst hover (hfirst hfile (hfirst ?_ ⟨rfl, rfl⟩))
  cases asked with
  | none => rfl
  | some s => exact Bool.or_true _

/-- **Legible layers make no fault.** -/
theorem not_resolveFault (hes : es.TextsOnce) (hfs : fs.TextsOnce) (hover : legible es = true)
    (hfile : legible fs = true) (f : Fault) : ¬ ResolveFault es fs asked f := by
  obtain ⟨hnaming, htemplates, hcustom, hset⟩ := legible_iff.mp hover
  obtain ⟨hnaming', htemplates', hcustom', hset'⟩ := legible_iff.mp hfile
  have hchosen := chosenSet_legible asked hset hset'
  intro h
  cases h with
  | key h =>
      rw [hchosen.1] at h
      cases h
  | text _ _ h =>
      rw [hchosen.2] at h
      cases h
  | @entries set _ hknown _ h =>
      obtain ⟨hn, ht, hc, _⟩ := legible_iff.mp (legible_setDefaults set hknown)
      have hroles := all_layers namedTo_mergeValue_all hes hfs (by decide) hn hnaming' hnaming
      have hgiven := all_layers isOptional_mergeNamed hes hfs (by decide) ht htemplates' htemplates
      have hkept := all_layers (fun _ _ hv _ => isOptional_mergeValue hv) hes hfs (by decide) hc
        hcustom' hcustom
      cases h with
      | naming h => exact not_namingFault hroles h
      | templates _ h => exact not_templatesFault hgiven h
      | custom _ _ h =>
          obtain ⟨v, hv, htrue, hf⟩ := h.value
          rw [hv] at hkept
          exact not_asEntries_error hkept htrue hf

/-! ## 3. The roles that have policies -/

/-- What is read as policies of the roles is a mapping, and so are the explicit entries in it. -/
theorem naming_mapping {naming : List (Data × PolicyOptions)} {below : Option Data}
    (hlayer : (mergedLayers set es fs).get? "naming" = overlay below (es.get? "naming"))
    (h : readNaming (mergedLayers set es fs) = .ok naming) {v : Data} :
    ((mergedLayers set es fs).get? "naming" = some v → ∃ roles, v = .mapping roles) ∧
      (es.get? "naming" = some v → ∃ roles, v = .mapping roles) := by
  refine ⟨mapping_of_readNaming h, fun hv => ?_⟩
  rw [hv] at hlayer
  cases v with
  | mapping roles => exact ⟨roles, rfl⟩
  | _ => exact mapping_of_readNaming h hlayer

/-- **All roles have policies unless the file overrides them with a value that is no mapping.** Then
    those have policies that the explicit entries name. -/
theorem map_naming_layers {naming : List (Data × PolicyOptions)} (hset : set ∈ templateSets)
    (hes : es.TextsOnce) (hfs : fs.TextsOnce)
    (h : readNaming (mergedLayers set es fs) = .ok naming) :
    ((∀ v, fs.get? "naming" = some v → ∃ roles, v = .mapping roles) →
      naming.map (·.1) = namingRoles.map .text) ∧
    ∀ v, fs.get? "naming" = some v → (∀ roles, v ≠ .mapping roles) →
      ∃ roles : Entries, es.get? "naming" = some (.mapping roles) ∧
        naming.map (·.1) = roles.map (·.1) := by
  obtain ⟨defaults, hdefaults, hroles⟩ := exists_namingDefaults set hset
  have hlayer : (mergedLayers set es fs).get? "naming" = _ := get?_layers hes hfs (by decide)
  rw [hdefaults] at hlayer
  have hmapping := @naming_mapping _ _ _ _ _ hlayer h
  constructor
  · intro hfile
    -- without a section in the file the defaults are merged with nothing
    obtain ⟨given, hgiven⟩ : ∃ given, overlay (some (.mapping defaults)) (fs.get? "naming") =
        some (.mapping (mergeEntries defaults given)) := by
      cases hnaming : fs.get? "naming" with
      | none => exact ⟨[], rfl⟩
      | some v =>
          obtain ⟨given, rfl⟩ := hfile v hnaming
          exact ⟨given, rfl⟩
    rw [hgiven] at hlayer
    cases hnaming : es.get? "naming" with
    | none =>
        rw [hnaming] at hlayer
        exact map_naming_of_update given hroles hlayer (map_mergeEntries given rfl) h
    | some v =>
        obtain ⟨above, rfl⟩ := hmapping.2 hnaming
        rw [hnaming] at hlayer
        refine map_naming_of_update (given ++ above) hroles hlayer ?_ h
        rw [update_append]
        exact map_mergeEntries above (map_mergeEntries given rfl)
  · intro v hv hnot
    -- a value that is no mapping takes the place of the defaults
    have hbelow : overlay (some (.mapping defaults)) (some v) = some v := by
      cases v with
      | mapping roles => exact absurd rfl (hnot roles)
      | _ => rfl
    rw [hv, hbelow] at hlayer
    cases hnaming : es.get? "naming" with
    | none =>
        rw [hnaming] at hlayer
        obtain ⟨roles, rfl⟩ := hmapping.1 hlayer
        exact absurd rfl (hnot roles)
    | some w =>
        obtain ⟨above, rfl⟩ := hmapping.2 hnaming
        rw [hnaming] at hlayer
        have hmerged : overlay (some v) (some (.mapping above)) = some (.mapping above) :=
          congrArg some (mergeValue_of_not_mapping (fun roles hr => hnot roles (Option.some.inj hr)) _)
        rw [hmerged] at hlayer
        exact ⟨above, rfl, map_roles_eq ((readNaming_eq_ok hlayer).mp h).2⟩

/-! ## 4. Main result -/

/-- **Loading ends in a configuration, in a configuration error, or in a fault of the file or of the
    entries.** Legible entries and files make no fault. A configuration that was loaded has policies
    with three texts and a truth value, and templates for exactly the roles that have some. It has
    policies for exactly the roles that have some, unless the file overrides the policies with a value
    that is no mapping. A file that was read held a mapping, or a YAML value that counts as false. -/
theorem load_outcome (hes : es.TextsOnce) :
    (∀ f, load tree (.mapping es) file asked = .error (.fault f) ↔
      LoadFault tree es file asked f) ∧
    (∀ problem, load tree (.mapping es) file asked = .error problem →
      (∃ e, problem = .config e) ∨ ∃ f, problem = .fault f ∧ LoadFault tree es file asked f) ∧
    (legible es = true → (∀ name f, file = some name → ¬ FileFault tree name f) →
      (∀ fs, fromFile tree file = .ok fs → legible fs = true) →
      (∃ c, load tree (.mapping es) file asked = .ok c) ∨
        ∃ e, load tree (.mapping es) file asked = .error (.config e)) ∧
    ∀ c, load tree (.mapping es) file asked = .ok c →
      (∀ x ∈ c.naming, ∃ p : NamingPolicy, x.2 = p.options) ∧
      (∃ templates : Entries, c.templates = .mapping templates ∧
        templates.map (·.1) = templateRoles.map .text) ∧
      ∃ fs, fromFile tree file = .ok fs ∧
        ((∀ v, fs.get? "naming" = some v → ∃ roles, v = .mapping roles) →
          c.naming.map (·.1) = namingRoles.map .text) ∧
        (∀ v, fs.get? "naming" = some v → (∀ roles, v ≠ .mapping roles) →
          ∃ roles : Entries, es.get? "naming" = some (.mapping roles) ∧
            c.naming.map (·.1) = roles.map (·.1)) ∧
        ∀ name, file = some name → name ≠ "" →
          ∃ format text, ConfigFormat.ofPath? (Path.ofString name) = some format ∧
            tree.readText (Path.ofString name) "utf-8" = .ok text ∧ Holds text format fs := by
  have hproblem : ∀ problem, load tree (.mapping es) file asked = .error problem →
      (∃ e, problem = .config e) ∨ ∃ f, problem = .fault f ∧ LoadFault tree es file asked f := by
    intro problem h
    rcases failsAs_load tree es file asked problem h with hconfig | ⟨f, rfl⟩
    · exact .inl hconfig
    · exact .inr ⟨f, rfl, load_fault.mp h⟩
  refine ⟨fun f => load_fault, hproblem, fun hover hfile hlayer => ?_, fun c h => ?_⟩
  · cases hload : load tree (.mapping es) file asked with
    | ok c => exact .inl ⟨c, rfl⟩
    | error problem =>
        rcases hproblem problem hload with ⟨e, rfl⟩ | ⟨f, _, hfault⟩
        · exact .inr ⟨e, rfl⟩
        · cases hfault with
          | file hname _ h => exact absurd h (hfile _ f hname)
          | entries hfs h =>
              exact absurd h (not_resolveFault hes (textsOnce_fromFile hfs) hover (hlayer _ hfs) f)
  · rw [load_mapping] at h
    obtain ⟨fs, hfs, h⟩ := except_bind_eq_ok.mp h
    obtain ⟨set, hset, _, hread⟩ := resolve_eq_ok.mp h
    obtain ⟨naming, templates, custom, hnaming, htemplates, _, rfl⟩ := ofEntries_eq_ok.mp hread
    obtain ⟨hall, hsome⟩ := map_naming_layers hset hes (textsOnce_fromFile hfs) hnaming
    refine ⟨options_readNaming hnaming, ⟨templates, rfl, map_readTemplates htemplates⟩, fs, hfs,
      hall, hsome, ?_⟩
    rintro name rfl hne
    rw [fromFile_some hne] at hfs
    exact holds_of_readConfigFile hfs

/-- An option whose name is a number. -/
def numberedOption : Entries :=
  ofFields [("naming", .mapping (ofFields [("event", .mapping [(.int 1, .text "x")])]))]

/-- That the option is unknown is not said: its name cannot be put among the names. -/
theorem load_numberedOption :
    load ⟨[], []⟩ (.mapping numberedOption) none none = .error (.fault .wrongKind) := by
  have hsection : (mergedLayers "es6" numberedOption []).get? "naming" =
      some (.mapping ([_, _] ++ (_, .mapping (Entries.put _ (.int 1) _)) :: _)) := rfl
  have hfault : NamingFault (mergedLayers "es6" numberedOption []) := by
    refine .option hsection ?_ ?_ ?_
    · decide
    · simp only [List.forall_mem_cons]
      exact ⟨⟨_, rfl⟩, ⟨_, rfl⟩, fun _ h => absurd h List.not_mem_nil⟩
    · rw [hasTexts_put]
      exact Bool.and_false _
  exact load_fault.mpr (.entries rfl (.entries (by decide) rfl (.naming hfault)))

/-- Another folder for events, and another template. -/
def movedEvents : Entries :=
  ofFields [("naming", .mapping (ofFields [("event", .mapping (ofFields [("folder", .text "x")]))])),
    ("templates", .mapping (ofFields [("event", .text "x.j2")]))]

theorem load_outcome_movedEvents : movedEvents.TextsOnce ∧
    ∃ c, load ⟨[], []⟩ (.mapping movedEvents) none none = .ok c ∧
      c.naming.map (·.1) = namingRoles.map .text ∧
      (∀ x ∈ c.naming, ∃ p : NamingPolicy, x.2 = p.options) := by
  have honce : movedEvents.TextsOnce := show movedEvents.textKeys.Nodup by decide
  obtain ⟨_, _, _, hloaded⟩ := @load_outcome ⟨[], []⟩ movedEvents none none honce
  have hok : ∃ c, load ⟨[], []⟩ (.mapping movedEvents) none none = .ok c := ⟨_, rfl⟩
  obtain ⟨c, hc⟩ := hok
  obtain ⟨hoptions, _, fs, hfs, hroles, _⟩ := hloaded c hc
  cases hfs
  exact ⟨honce, c, hc, hroles fun v hv => by (cases hv), hoptions⟩

end Config

/-! ## 5. Layers that name templates -/

/-- Are the values of all entries texts, where the value can be read as entries? -/
def Data.holdsTexts (v : Data) : Bool :=
  match v.asEntries with
  | .ok es => es.all (·.2.text?.isSome)
  | .error _ => true

namespace Config

variable {es fs : Entries} {tree : FileTree} {c : Config}

/-- Are the folder of templates, their encoding and their names texts, where they are given? -/
def namesTemplates (es : Entries) : Bool :=
  (es.get? "template_dir").all (·.text?.isSome) &&
    (es.get? "template_encoding").all (·.text?.isSome) && (es.get? "templates").all holdsTexts

theorem namesTemplates_iff : namesTemplates es = true ↔
    (es.get? "template_dir").all (·.text?.isSome) = true ∧
      (es.get? "template_encoding").all (·.text?.isSome) = true ∧
      (es.get? "templates").all holdsTexts = true := by
  unfold namesTemplates
  simp only [Bool.and_eq_true, and_assoc]

/-- The set is one of those there are, and the folder of templates, their encoding and their names are
    texts. There may be no folder. -/
structure NamesTemplates (c : Config) : Prop where
  set : ∃ set ∈ templateSets, c.templateSet = .text set
  folder : c.templateDir = .null ∨ ∃ s, c.templateDir = .text s
  encoding : ∃ s, c.templateEncoding = .text s
  template : ∀ role ∈ templateRoles, ∃ n, c.templateFor role = .ok (.text n)

/-! ## 6. Merged names -/

theorem isText_mergeValue (v : Data) (old : Option Data) (hv : v.text?.isSome = true)
    (_ : old.all (·.text?.isSome) = true) : (mergeValue old v).text?.isSome = true := by
  cases v with
  | text s => rfl
  | _ => cases hv

theorem forall_text_mergeEntries : ∀ {fs es : Entries}, (∀ e ∈ es, e.2.text?.isSome = true) →
    (∀ e ∈ fs, e.2.text?.isSome = true) → ∀ e ∈ mergeEntries es fs, e.2.text?.isSome = true
  | [], _, hes, _ => hes
  | (k, v) :: rest, es, hes, hfs => by
      obtain ⟨hv, hrest⟩ := List.forall_mem_cons.mp hfs
      have hmerged : (mergeValue (es.lookup? k) v).text?.isSome = true := by
        cases v with
        | text s => rfl
        | _ => cases hv
      rw [mergeEntries]
      exact forall_text_mergeEntries (forall_mem_put (P := fun v => v.text?.isSome = true) hes hmerged)
        hrest

theorem holdsTexts_mergeValue (v : Data) (old : Option Data) (hv : v.holdsTexts = true)
    (hold : old.all holdsTexts = true) : (mergeValue old v).holdsTexts = true := by
  cases v with
  | mapping fs =>
      unfold mergeValue
      split
      · rename_i es
        have hes : es.all (·.2.text?.isSome) = true := hold
        have hfs : fs.all (·.2.text?.isSome) = true := hv
        exact List.all_eq_true.mpr
          (forall_text_mergeEntries (List.all_eq_true.mp hes) (List.all_eq_true.mp hfs))
      · exact hv
  | _ => exact hv

/-- A text stands for a setting if each layer gives a text or nothing. -/
theorem exists_text_of_all {x : Option Data} (h : x.all (·.text?.isSome) = true) :
    x = none ∨ ∃ s, x = some (.text s) := by
  cases x with
  | none => exact .inl rfl
  | some v =>
      cases v with
      | text s => exact .inr ⟨s, rfl⟩
      | _ => cases h

/-- The names of the templates that are read are texts. -/
theorem text_readTemplates {templates : Entries} (h : readTemplates es = .ok templates)
    (hes : (es.get? "templates").all holdsTexts = true) :
    ∀ e ∈ templates, e.2.text?.isSome = true := by
  obtain ⟨given, hgiven, h⟩ := except_bind_eq_ok.mp h
  obtain ⟨_, _, h⟩ := except_bind_eq_ok.mp h
  cases h
  refine forall_mem_update (P := fun v => v.text?.isSome = true) (by decide) ?_
  unfold optionalEntries at hgiven
  split at hgiven
  · cases hgiven
    exact fun e he => absurd he List.not_mem_nil
  · rename_i v hv
    rw [hv] at hes
    split at hgiven
    · have htexts : v.holdsTexts = true := hes
      unfold holdsTexts at htexts
      rw [except_mapError_eq_ok.mp hgiven] at htexts
      exact List.all_eq_true.mp htexts
    · cases hgiven
      exact fun e he => absurd he List.not_mem_nil

/-! ## 7. Configurations that name templates -/

theorem namesTemplates_setDefaults : ∀ set ∈ templateSets, namesTemplates (setDefaults set) = true := by
  decide

/-- **A configuration that is loaded names its templates in texts if its layers do.** -/
theorem namesTemplates_load {file asked : Option String} (hes : es.TextsOnce)
    (h : load tree (.mapping es) file asked = .ok c) (hover : namesTemplates es = true)
    (hfile : ∀ fs, fromFile tree file = .ok fs → namesTemplates fs = true) :
    c.Checked ∧ c.NamesTemplates := by
  rw [load_mapping] at h
  obtain ⟨fs, hfs, h⟩ := except_bind_eq_ok.mp h
  obtain ⟨set, hset, _, hread⟩ := resolve_eq_ok.mp h
  have hchecked := checked_ofEntries hread
  obtain ⟨naming, templates, custom, _, htemplates, _, rfl⟩ := ofEntries_eq_ok.mp hread
  have honce := textsOnce_fromFile hfs
  obtain ⟨hdir, hform, hnames⟩ := namesTemplates_iff.mp hover
  obtain ⟨hdir', hform', hnames'⟩ := namesTemplates_iff.mp (hfile fs hfs)
  obtain ⟨hdir'', hform'', hnames''⟩ := namesTemplates_iff.mp (namesTemplates_setDefaults set hset)
  have hfolder := all_layers isText_mergeValue hes honce (by decide) hdir'' hdir' hdir
  have hencoding := all_layers isText_mergeValue hes honce (by decide) hform'' hform' hform
  have hgiven := all_layers holdsTexts_mergeValue hes honce (by decide) hnames'' hnames' hnames
  refine ⟨hchecked, ⟨set, hset, ?_⟩, ?_, ?_, fun role hrole => ?_⟩
  · unfold mergedLayers
    rw [get?_set_self]
    rfl
  · rcases exists_text_of_all hfolder with hnone | ⟨s, hs⟩
    · exact .inl (by rw [hnone]; rfl)
    · exact .inr ⟨s, by rw [hs]; rfl⟩
  · rcases exists_text_of_all hencoding with hnone | ⟨s, hs⟩
    · exact ⟨"utf-8", by rw [hnone]; rfl⟩
    · exact ⟨s, by rw [hs]; rfl⟩
  · obtain ⟨t, ht⟩ := get?_readTemplates htemplates role hrole
    have htext := text_readTemplates htemplates hgiven _ (mem_of_get? ht)
    cases t with
    | text n =>
        refine ⟨n, ?_⟩
        unfold templateFor
        dsimp only
        rw [ht]
    | _ => cases htext

end Config

end DomainGen
