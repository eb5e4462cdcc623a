import DomainGen.Proofs.Config.Resolution

/-!
# Which layer a setting comes from

Each setting of a resolved configuration has the value of the first layer that gives one: the explicit
entries, the entries of the file, the defaults. The options of the naming policies are looked for one by
one. The layers are trees of values, so that no mapping stands at two places in them, and merging at one
place leaves the others as they are.

* `Config.layered` : the value of a setting in two layers. Two mappings are merged;
* `plainSettings_ofEntries` : **a plain setting is that of the first layer that gives it**;
* `Config.nestsNaming` : is the naming section made of mappings? `policies_ofEntries` : **so is each
  option of a policy**;
* `resolve_layered` : both, with the set itself and the law of merging at every depth.
-/

namespace DomainGen

open Data Entries NamingPolicy

namespace Config

variable {overrides file : Entries} {set : String}

/-! ## 1. Settings -/

/-- The value of a setting that two layers may give. Two mappings are merged. -/
def layered (default : Data) (file overrides : Option Data) : Data :=
  match overrides, file with
  | some (.mapping es), some (.mapping below) => .mapping (mergeEntries below es)
  | some v, _ => v
  | none, some v => v
  | none, none => default

/-- What merging gives over a default that is no mapping. -/
theorem getD_overlay_layered {default : Option Data} {d e : Data} (hd : default.getD e = d)
    (hnot : ∀ es, default ≠ some (.mapping es)) (file overrides : Option Data) :
    (overlay (overlay default file) overrides).getD e = layered d file overrides := by
  cases file with
  | none =>
      cases overrides with
      | none => exact hd
      | some v => cases v <;> simp [overlay, layered, mergeValue_of_not_mapping hnot]
  | some w =>
      cases overrides with
      | none => cases w <;> simp [overlay, layered, mergeValue_of_not_mapping hnot]
      | some v =>
          simp only [overlay, mergeValue_of_not_mapping hnot, Option.getD_some]
          cases v <;> cases w <;> simp [mergeValue, layered]

/-- The settings that are plain values: their names, their values and their defaults. -/
def plainSettings (c : Config) (set : String) : List (String × Data × Data) :=
  [("sub_module_name", c.subModuleName, .text ("index" ++ setExtension set)),
    ("root_module_name", c.rootModuleName, .text ("index" ++ setExtension set)),
    ("template_dir", c.templateDir, .null),
    ("template_encoding", c.templateEncoding, .text "utf-8"),
    ("emit_empty_root_index", c.emitEmptyRootIndex, .bool true),
    ("atomic", c.atomic, .bool false)]

/-- No set has a mapping as the default of a plain setting. -/
theorem setDefaults_plain : ∀ set ∈ templateSets, ∀ x ∈ standard.plainSettings set,
    "template_set" ≠ x.1 ∧ (((setDefaults set).get? x.1).bind Data.entries?).isNone = true := by
  decide

/-- **A plain setting is that of the first layer that gives it.** -/
theorem plainSettings_ofEntries (hset : set ∈ templateSets) (hover : areKeyed overrides = true)
    (hfile : areKeyed file = true) {c : Config}
    (h : ofEntries (mergedLayers set overrides file) = .ok c) :
    ∀ x ∈ c.plainSettings set, x.2.1 = layered x.2.2 (file.get? x.1) (overrides.get? x.1) := by
  obtain ⟨naming, templates, custom, _, _, _, rfl⟩ := ofEntries_eq_ok.mp h
  have hvalue : ∀ {name : String} {v d e : Data}, (name, v, d) ∈ standard.plainSettings set →
      ((setDefaults set).get? name).getD e = d →
      ((mergedLayers set overrides file).get? name).getD e =
        layered d (file.get? name) (overrides.get? name) := by
    intro name v d e hname hd
    obtain ⟨hother, hnot⟩ := setDefaults_plain set hset _ hname
    rw [get?_mergedLayers hset hover hfile hother]
    refine getD_overlay_layered hd (fun es hes => ?_) _ _
    rw [hes] at hnot
    cases hnot
  have hcases : set = "es6" ∨ set = "typescript" := by simpa [templateSets] using hset
  intro x hx
  simp only [plainSettings, List.mem_cons, List.not_mem_nil, or_false] at hx
  rcases hx with rfl | rfl | rfl | rfl | rfl | rfl <;>
    refine hvalue (by simp [plainSettings]; rfl) ?_ <;> rcases hcases with rfl | rfl <;> rfl

/-! ## 2. Naming policies -/

/-- Are the naming section and what it has for the roles mappings, where there are any? -/
def nestsNaming (es : Entries) : Bool :=
  match es.get? "naming" with
  | none => true
  | some (.mapping roles) => namingRoles.all fun role =>
    (Entries.get? roles role).all fun x => x.entries?.isSome
  | some _ => false

/-- The place of the options of a role. -/
def rolePath (role : String) : List Data := [.text "naming", .text role]

/-- The place of an option of a role. -/
def optionPath (role option : String) : List Data := rolePath role ++ [.text option]

/-- A nested naming section has a mapping for a role, or nothing. -/
theorem at?_rolePath {es : Entries} (h : nestsNaming es = true) {role : String}
    (hrole : role ∈ namingRoles) : (∃ options, (Data.mapping es).at? (rolePath role) =
      some (.mapping options)) ∨ (Data.mapping es).lacks (rolePath role) = true := by
  unfold nestsNaming at h
  simp only [rolePath, at?, lacks]
  unfold Entries.get? at h
  split at h
  · rename_i hnaming
    exact .inr (by rw [hnaming])
  · rename_i roles hnaming
    have hmapping := List.all_eq_true.mp h role hrole
    rw [hnaming]
    cases hoptions : Entries.lookup? roles (.text role) with
    | none => exact .inr (by simp only [lacks, hoptions])
    | some x =>
        rw [hoptions] at hmapping
        cases x with
        | mapping options => exact .inl ⟨options, by simp only [Option.bind_some, at?, hoptions]⟩
        | _ => cases hmapping
  · cases h

/-- Where a nested naming section has no option it says nothing about it. -/
theorem lacks_optionPath {es : Entries} (h : nestsNaming es = true) {role option : String}
    (hrole : role ∈ namingRoles)
    (hnone : (Data.mapping es).at? (optionPath role option) = none) :
    (Data.mapping es).lacks (optionPath role option) = true := by
  rcases at?_rolePath h hrole with ⟨options, hoptions⟩ | hlacks
  · refine lacks_concat hoptions ?_
    unfold optionPath at hnone
    rw [at?_concat, hoptions] at hnone
    simpa [at?] using hnone
  · exact lacks_append _ hlacks

/-- The policies a set has by default, option by option. -/
theorem setDefaults_policies (hset : set ∈ templateSets) (kind : Option Kind) :
    (∃ es, (Data.mapping (setDefaults set)).at? (rolePath (roleOf kind)) = some (.mapping es)) ∧
      ∀ option ∈ knownOptions,
        (defaultPolicy (setExtension set) kind).options.entries.get? option =
          some (((Data.mapping (setDefaults set)).at?
            (optionPath (roleOf kind) option)).getD (.bool false)) := by
  have hcases : set = "es6" ∨ set = "typescript" := by simpa [templateSets] using hset
  constructor
  · rcases hcases with rfl | rfl <;> rcases kind with _ | _ | _ | _ <;> exact ⟨_, rfl⟩
  · intro option hoption
    have hoptions : option = "extension" ∨ option = "folder" ∨ option = "suffix" ∨
        option = prefixOption := by
      simpa [knownOptions, requiredOptions] using hoption
    rcases hoptions with rfl | rfl | rfl | rfl <;> rcases hcases with rfl | rfl <;>
      rcases kind with _ | _ | _ | _ <;> rfl

theorem roleOf_mem (kind : Option Kind) : roleOf kind ∈ namingRoles := by
  rcases kind with _ | _ | _ | _ <;> decide

/-- The options of a policy are those of the entries that gave it. -/
theorem options_of_givenBy {p : NamingPolicy} {es : Entries} (h : p.GivenBy es) {option : String}
    (hoption : option ∈ knownOptions) :
    p.options.entries.get? option = some ((es.get? option).getD (.bool false)) := by
  have hoptions : option = "extension" ∨ option = "folder" ∨ option = "suffix" ∨
      option = prefixOption := by
    simpa [knownOptions, requiredOptions] using hoption
  rcases hoptions with rfl | rfl | rfl | rfl
  · rw [h.extension]
    rfl
  · rw [h.folder]
    rfl
  · rw [h.suffix]
    rfl
  · rw [h.prefixed]
    rfl

/-- No option that a policy is given by is a mapping. -/
theorem not_mapping_of_givenBy {p : NamingPolicy} {es : Entries} (h : p.GivenBy es) {option : String}
    (hoption : option ∈ knownOptions) : ∀ os, es.get? option ≠ some (.mapping os) := by
  intro os hos
  have hvalue := options_of_givenBy h hoption
  rw [hos] at hvalue
  have hoptions : option = "extension" ∨ option = "folder" ∨ option = "suffix" ∨
      option = prefixOption := by
    simpa [knownOptions, requiredOptions] using hoption
  rcases hoptions with rfl | rfl | rfl | rfl <;> cases hvalue

/-- In the entries of all layers every role has a mapping. -/
theorem exists_role_mergedLayers (hset : set ∈ templateSets) (hover : areKeyed overrides = true)
    (hfile : areKeyed file = true) (hnested : nestsNaming overrides = true)
    (hnested' : nestsNaming file = true) (kind : Option Kind) :
    ∃ roles es, (mergedLayers set overrides file).get? "naming" = some (.mapping roles) ∧
      Entries.get? roles (roleOf kind) = some (.mapping es) := by
  obtain ⟨⟨below, hbelow⟩, -⟩ := setDefaults_policies hset kind
  have hsilent : ∀ {fs : Entries}, nestsNaming fs = true →
      (∃ os, (Data.mapping fs).at? (rolePath (roleOf kind)) = some (.mapping os)) ∨
        ((Data.mapping fs).at? (rolePath (roleOf kind)) = none ∧
          (Data.mapping fs).lacks (rolePath (roleOf kind)) = true) :=
    fun hfs => (at?_rolePath hfs (roleOf_mem kind)).imp_right fun hl =>
      ⟨at?_eq_none_of_lacks hl, hl⟩
  obtain ⟨fs, hfs⟩ := @exists_mapping_overlayAt below _ _ (hsilent hnested')
  obtain ⟨es, hes⟩ := @exists_mapping_overlayAt fs _ _ (hsilent hnested)
  have hat : (Data.mapping (mergedLayers set overrides file)).at? (rolePath (roleOf kind)) =
      some (.mapping es) := by
    unfold rolePath at hbelow hfs hes ⊢
    rw [at?_mergedLayers hset hover hfile (by simp [isKey]), hbelow, hfs, hes]
  simp only [rolePath, at?] at hat
  obtain ⟨x, hx, hat⟩ := Option.bind_eq_some_iff.mp hat
  cases x with
  | mapping roles =>
      simp only [at?] at hat
      obtain ⟨y, hy, hat⟩ := Option.bind_eq_some_iff.mp hat
      cases hat
      exact ⟨roles, es, hx, hy⟩
  | _ => cases hat

/-- **Each option is that of the first layer that gives it.** -/
theorem policies_ofEntries (hset : set ∈ templateSets) (hover : areKeyed overrides = true)
    (hfile : areKeyed file = true) (hnested : nestsNaming overrides = true)
    (hnested' : nestsNaming file = true)
    {c : Config} (h : ofEntries (mergedLayers set overrides file) = .ok c) (kind : Option Kind) :
    ∃ p, c.policyFor kind = .ok p ∧ ∀ option ∈ knownOptions,
      p.options.entries.get? option =
        (((Data.mapping overrides).at? (optionPath (roleOf kind) option)).or
          ((Data.mapping file).at? (optionPath (roleOf kind) option))).or
            ((defaultPolicy (setExtension set) kind).options.entries.get? option) := by
  have hrole := roleOf_mem kind
  obtain ⟨roles, es, hroles, hes⟩ :=
    exists_role_mergedLayers hset hover hfile hnested hnested' kind
  obtain ⟨naming, _, _, hnaming, _, _, rfl⟩ := ofEntries_eq_ok.mp h
  obtain ⟨p, os, hos, hgiven, hfound⟩ :=
    find?_policiesRead ((readNaming_eq_ok hroles).mp hnaming).2 hes
  cases hos
  refine ⟨p, policyFor_eq_ok.mpr hfound, fun option hoption => ?_⟩
  -- the option in the merged entries, from layer to layer
  have hat : Entries.get? es option = (Data.mapping (mergedLayers set overrides file)).at?
      (optionPath (roleOf kind) option) := by
    have hroles' : (mergedLayers set overrides file).lookup? (.text "naming") = _ := hroles
    have hes' : Entries.lookup? roles (.text (roleOf kind)) = _ := hes
    simp only [optionPath, rolePath, List.cons_append, List.nil_append, at?, hroles', hes',
      Option.bind_some]
    cases h : Entries.get? es option <;> unfold Entries.get? at h <;> rw [h] <;> rfl
  have hkeys : ∀ key ∈ [Data.text (roleOf kind), .text option], key.isKey = true := by
    simp [isKey]
  have hlayers := at?_mergedLayers hset hover hfile hkeys
  have hnot := not_mapping_of_givenBy hgiven hoption
  have hvalue := options_of_givenBy hgiven hoption
  have hdefault := (setDefaults_policies hset kind).2 option hoption
  have hsilent := @lacks_optionPath _ hnested _ option hrole
  have hsilent' := @lacks_optionPath _ hnested' _ option hrole
  unfold optionPath rolePath at hat hdefault hsilent hsilent' ⊢
  simp only [List.cons_append, List.nil_append] at hat hdefault hsilent hsilent' ⊢
  rw [hat, hlayers] at hvalue hnot
  rw [hvalue, hdefault, overlayAt_overlayAt hsilent' hsilent hnot]
  cases Option.or ((Data.mapping overrides).at? _) ((Data.mapping file).at? _) <;> rfl

/-! ## 3. All settings -/

/-- **A resolved configuration has each setting of the first layer that gives it.** The set is the
    first that is named and counts as true. An option of a naming policy is that of the explicit
    entries, of the file or of the set. Any other plain setting is too, but that two mappings are
    merged. And so are merged entries at every depth: they hold at a path what the upper ones hold, or
    where those say nothing what the lower ones do; merging them once more changes nothing. All this is
    about trees of values: entries that share a mapping are none. -/
theorem resolve_layered {asked : Option String} {c : Config}
    (hover : areKeyed overrides = true) (hfile : areKeyed file = true)
    (hnested : nestsNaming overrides = true) (hnested' : nestsNaming file = true)
    (h : resolve overrides file asked = .ok c) :
    ([overrides.get? "template_set", file.get? "template_set", asked.map Data.text,
        some (.text defaultTemplateSet)].reduceOption.find? isTrue = some c.templateSet) ∧
    (∃ set, c.templateSet = .text set ∧
      (∀ kind, ∃ p, c.policyFor kind = .ok p ∧ ∀ option ∈ knownOptions,
        p.options.entries.get? option =
          (((Data.mapping overrides).at? (optionPath (roleOf kind) option)).or
            ((Data.mapping file).at? (optionPath (roleOf kind) option))).or
              ((defaultPolicy (setExtension set) kind).options.entries.get? option)) ∧
      ∀ x ∈ c.plainSettings set, x.2.1 = layered x.2.2 (file.get? x.1) (overrides.get? x.1)) ∧
    ∀ lower upper, areKeyed lower = true → areKeyed upper = true →
      (∀ path : List Data, (∀ key ∈ path, key.isKey = true) → MergedAt lower upper path) ∧
      mergeEntries (mergeEntries lower upper) upper = mergeEntries lower upper := by
  obtain ⟨set, hset, hchosen, hread⟩ := resolve_eq_ok.mp h
  have htemplateSet : c.templateSet = .text set := by
    obtain ⟨_, _, _, _, _, _, rfl⟩ := ofEntries_eq_ok.mp hread
    show ((mergedLayers set overrides file).get? "template_set").getD _ = _
    unfold mergedLayers
    rw [get?_set_self, Option.getD_some]
  refine ⟨?_, ⟨set, htemplateSet, ?_, ?_⟩, ?_⟩
  · rw [htemplateSet, ← hchosen]
    exact find?_chosenSet overrides file asked
  · exact policies_ofEntries hset hover hfile hnested hnested' hread
  · exact plainSettings_ofEntries hset hover hfile hread
  · intro lower upper hlower hupper
    exact ⟨fun path hpath => mergedAt hlower hupper hpath, mergeEntries_again hupper hlower⟩

/-- The entries of a file that names a set, options of two policies, and a mapping as a setting. -/
def layeredFile : Entries := Entries.ofFields
  [("template_set", .text "typescript"),
    ("naming", .mapping (Entries.ofFields
      [("event", .mapping (Entries.ofFields [("folder", .text "happened"), ("suffix", .text "Evt")])),
        ("fault", .mapping (Entries.ofFields [("folder", .text "errors")]))])),
    ("sub_module_name", .mapping (Entries.ofFields [("x", .int 1)])),
    ("root_module_name", .text "domain.ts"), ("atomic", .bool true)]

/-- Entries over those: an option of one of the policies, nothing for a setting that the file has, and
    another mapping. -/
def layeredOverrides : Entries := Entries.ofFields
  [("template_set", .text ""),
    ("naming", .mapping (Entries.ofFields
      [("event", .mapping (Entries.ofFields [("folder", .text "events")]))])),
    ("sub_module_name", .mapping (Entries.ofFields [("y", .int 2)])), ("atomic", .null)]

/-- Two layers over the defaults: the set is the first that counts as true, the event policy has an
    option of each layer, null hides what the file has. -/
theorem resolve_layered_event : ∃ c, resolve layeredOverrides layeredFile (some "es6") = .ok c ∧
    areKeyed layeredOverrides = true ∧ areKeyed layeredFile = true ∧
    nestsNaming layeredOverrides = true ∧ nestsNaming layeredFile = true ∧
    c.templateSet = .text "typescript" ∧
    c.policyFor (some .event) = .ok ⟨".ts", "events", "Evt", false⟩ ∧
    c.rootModuleName = .text "domain.ts" ∧ c.templateEncoding = .text "utf-8" ∧
    c.atomic = .null := by
  obtain ⟨c, hc⟩ : ∃ c, resolve layeredOverrides layeredFile (some "es6") = .ok c :=
    exists_ok_of_isSome (by decide +kernel)
  obtain ⟨hset, ⟨set, hname, hpolicies, hplain⟩, _⟩ :=
    resolve_layered (by decide) (by decide) (by decide) (by decide) hc
  have htypescript : c.templateSet = .text "typescript" := (Option.some.inj hset).symm
  obtain rfl : set = "typescript" := Data.text.inj (hname.symm.trans htypescript)
  obtain ⟨p, hp, hoptions⟩ := hpolicies (some .event)
  have hextension := hoptions "extension" (by decide)
  have hfolder := hoptions "folder" (by decide)
  have hsuffix := hoptions "suffix" (by decide)
  have hfront := hoptions prefixOption (by decide)
  cases p
  cases hextension
  cases hfolder
  cases hsuffix
  cases hfront
  simp only [plainSettings, List.forall_mem_cons] at hplain
  obtain ⟨_, hroot, _, hencoding, _, hatomic, _⟩ := hplain
  exact ⟨c, hc, by decide, by decide, by decide, by decide, htypescript, hp, hroot, hencoding,
    hatomic⟩

/-- **Two mappings given for one setting are merged**, so the explicit one is not the value. -/
theorem merged_mapping_setting : ∃ c, resolve layeredOverrides layeredFile none = .ok c ∧
    layeredOverrides.get? "sub_module_name" = some (.mapping (Entries.ofFields [("y", .int 2)])) ∧
    c.subModuleName = .mapping (Entries.ofFields [("x", .int 1), ("y", .int 2)]) ∧
    c.subModuleName ≠ .mapping (Entries.ofFields [("y", .int 2)]) := by
  refine ⟨_, rfl, rfl, rfl, fun h => ?_⟩
  have hlength := congrArg List.length (Data.mapping.inj h)
  cases hlength

end Config

end DomainGen
