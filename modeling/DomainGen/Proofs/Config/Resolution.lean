import DomainGen.Config.Resolution
import DomainGen.Proofs.Config.Merging
import DomainGen.Proofs.Config.Warnings
import DomainGen.Proofs.Data.Overriding
import DomainGen.Proofs.Except
import Mathlib.Data.List.ReduceOption

/-!
# Resolving a configuration

A policy is read from a mapping that has the three required options, as texts, and no others but the
one that is a truth value. The policies of the roles are read one after the other and stay in order.

A configuration is made of the defaults of a template set, the entries of a file and explicit entries,
each merged over those before. Which set is taken is read off the upper layers, and the merged entries
are then read as settings.

The layers of a configuration are checked when they are resolved. What comes out has options that
make policies, and a template for every role, whatever the layers were.

* `refuseUnknown_eq_ok` : all keys are known;
* `NamingPolicy.ofData_eq_ok` : **what a value must hold to give a policy**;
* `readNaming_eq_ok` : **the policies are those of the roles, in order**; `find?_policiesRead` : each
  role has the policy its value gives;
* `Config.mergedLayers` : the entries of all layers; `resolve_eq_ok` : **what resolving succeeds with**;
* `find?_chosenSet` : the set is the first of the values named that counts as true;
* `ofEntries_eq_ok` : what reading settings succeeds with;
* `get?_mergedLayers`, `at?_mergedLayers` : what the merged entries hold;
* `Config.Checked` : the options are those of policies, and every role has a template;
* `checked_ofEntries`, `checked_resolve` : **resolving gives checked configurations**;
* `Checked.policyFor` : a checked configuration without warnings has all policies.
-/

namespace DomainGen

/-! ## 1. Known keys -/

theorem refuseUnknown_eq_ok {es : Entries} {known : List String}
    {problem : List String → ConfigError} :
    refuseUnknown es known problem = .ok () ↔ ∀ e ∈ es, e.1.isAmong known = true := by
  unfold refuseUnknown
  dsimp only
  split
  · rename_i hempty
    refine ⟨fun _ e he => ?_, fun _ => rfl⟩
    have hknown := List.filter_eq_nil_iff.mp (List.isEmpty_iff.mp hempty) e.1
      (List.mem_map_of_mem he)
    cases hk : e.1 with
    | text s =>
        rw [hk] at hknown
        simpa [Data.isAmong] using hknown
    | _ =>
        rw [hk] at hknown
        exact absurd rfl hknown
  · rename_i hsome
    constructor
    · intro h
      split at h <;> cases h
    · intro h
      refine absurd (List.isEmpty_iff.mpr (List.filter_eq_nil_iff.mpr fun k hk => ?_)) hsome
      obtain ⟨e, he, rfl⟩ := List.mem_map.mp hk
      have hknown := h e he
      cases hk : e.1 with
      | text s =>
          rw [hk] at hknown
          simpa [Data.isAmong] using hknown
      | _ =>
          rw [hk] at hknown
          cases hknown

/-! ## 2. One policy -/

namespace NamingPolicy

/-- All options a policy can have. -/
def knownOptions : List String := requiredOptions ++ [prefixOption]

theorem textOption_eq_ok {role : String} {es : Entries} {name s : String} :
    textOption role es name = .ok s ↔ es.get? name = some (.text s) := by
  unfold textOption
  split
  · rename_i t ht
    rw [ht, Except.ok.injEq, Option.some.injEq, Data.text.injEq]
  · rename_i hne
    constructor
    · intro h
      cases h
    · intro h
      exact absurd h (hne s)

/-- What entries must hold to give a policy. -/
structure GivenBy (p : NamingPolicy) (es : Entries) : Prop where
  known : ∀ e ∈ es, e.1.isAmong knownOptions = true
  extension : es.get? "extension" = some (.text p.extension)
  folder : es.get? "folder" = some (.text p.folder)
  suffix : es.get? "suffix" = some (.text p.suffix)
  prefixed : (es.get? prefixOption).getD (.bool false) = .bool p.prefixAggregateName

/-- **A value gives a policy exactly if it is a mapping with its options.** -/
theorem ofData_eq_ok {role : String} {data : Data} {p : NamingPolicy} :
    ofData role data = .ok p ↔ ∃ es, data = .mapping es ∧ p.GivenBy es := by
  unfold ofData
  constructor
  · intro h
    split at h
    · rename_i es
      obtain ⟨_, hknown, h⟩ := except_bind_eq_ok.mp h
      dsimp only at h
      by_cases hmissing : (!(requiredOptions.filter fun name =>
          (Entries.get? es name).isNone).isEmpty) = true
      · rw [if_pos hmissing] at h
        cases h
      rw [if_neg hmissing] at h
      obtain ⟨extension, hextension, h⟩ := except_bind_eq_ok.mp h
      obtain ⟨folder, hfolder, h⟩ := except_bind_eq_ok.mp h
      obtain ⟨suffix, hsuffix, h⟩ := except_bind_eq_ok.mp h
      have known := refuseUnknown_eq_ok.mp hknown
      have extension' := textOption_eq_ok.mp hextension
      have folder' := textOption_eq_ok.mp hfolder
      have suffix' := textOption_eq_ok.mp hsuffix
      split at h
      · rename_i hfront
        cases h
        exact ⟨es, rfl, known, extension', folder', suffix', by rw [hfront]; rfl⟩
      · rename_i b hfront
        cases h
        exact ⟨es, rfl, known, extension', folder', suffix', by rw [hfront]; rfl⟩
      · cases h
    · cases h
  · rintro ⟨es, rfl, h⟩
    have hmissing : (requiredOptions.filter fun name => (Entries.get? es name).isNone) = [] := by
      simp [requiredOptions, h.extension, h.folder, h.suffix]
    refine except_bind_eq_ok.mpr ⟨(), refuseUnknown_eq_ok.mpr h.known, ?_⟩
    dsimp only
    rw [hmissing, if_neg (by decide)]
    refine except_bind_eq_ok.mpr ⟨_, textOption_eq_ok.mpr h.extension, ?_⟩
    refine except_bind_eq_ok.mpr ⟨_, textOption_eq_ok.mpr h.folder, ?_⟩
    refine except_bind_eq_ok.mpr ⟨_, textOption_eq_ok.mpr h.suffix, ?_⟩
    have hfront := h.prefixed
    cases hfound : Entries.get? es prefixOption with
    | none =>
        rw [hfound] at hfront
        cases p
        cases hfront
        rfl
    | some b =>
        rw [hfound] at hfront
        cases hfront
        rfl

end NamingPolicy

/-! ## 3. The policies of the roles -/

namespace Config

open NamingPolicy

/-- The policy of a role, read from its value. -/
def PolicyRead (e : Data × Data) (x : Data × PolicyOptions) : Prop :=
  ∃ p es, e.2 = .mapping es ∧ GivenBy p es ∧ x = (e.1, p.options)

/-- **The policies of the roles are read in order.** -/
theorem readNaming_eq_ok {es roles : Entries} {naming : List (Data × PolicyOptions)}
    (h : es.get? "naming" = some (.mapping roles)) :
    readNaming es = .ok naming ↔ (∀ e ∈ roles, e.1.isAmong namingRoles = true) ∧
      List.Forall₂ PolicyRead roles naming := by
  have hread : ∀ (e : Data × Data) (x : Data × PolicyOptions),
      (do return (e.1, (← ofData e.1.plain e.2).options) : Except Failure _) = .ok x ↔
        PolicyRead e x := by
    intro e x
    rw [except_bind_eq_ok]
    constructor
    · rintro ⟨p, hp, hx⟩
      obtain ⟨os, hos, hgiven⟩ := ofData_eq_ok.mp hp
      exact ⟨p, os, hos, hgiven, (Except.ok.inj hx).symm⟩
    · rintro ⟨p, os, hos, hgiven, rfl⟩
      exact ⟨p, ofData_eq_ok.mpr ⟨os, hos, hgiven⟩, rfl⟩
  unfold readNaming
  rw [h]
  dsimp only
  rw [except_bind_eq_ok]
  constructor
  · rintro ⟨_, hknown, hpolicies⟩
    refine ⟨refuseUnknown_eq_ok.mp hknown, (mapM_eq_ok.mp hpolicies).imp fun e x hx => ?_⟩
    exact (hread e x).mp hx
  · rintro ⟨hknown, hpolicies⟩
    exact ⟨(), refuseUnknown_eq_ok.mpr hknown,
      mapM_eq_ok.mpr (hpolicies.imp fun e x hx => (hread e x).mpr hx)⟩

/-- What policies are read from is a mapping. -/
theorem mapping_of_readNaming {es : Entries} {naming : List (Data × PolicyOptions)}
    (h : readNaming es = .ok naming) {v : Data} (hv : es.get? "naming" = some v) :
    ∃ roles, v = .mapping roles := by
  unfold readNaming at h
  rw [hv] at h
  cases v with
  | mapping roles => exact ⟨roles, rfl⟩
  | _ => cases h

/-- **Each role has the policy that its value gives.** -/
theorem find?_policiesRead {roles : Entries} {naming : List (Data × PolicyOptions)}
    (h : List.Forall₂ PolicyRead roles naming) {role : String} {data : Data}
    (hrole : roles.get? role = some data) : ∃ p es, data = .mapping es ∧ GivenBy p es ∧
      (naming.find? fun x => x.1.sameKey (.text role)).map (·.2) = some p.options := by
  induction h with
  | nil => cases hrole
  | @cons e x _ _ hx _ ih =>
      obtain ⟨p, es, hes, hgiven, rfl⟩ := hx
      unfold Entries.get? Entries.lookup? at hrole ih
      rw [List.find?_cons] at hrole ⊢
      dsimp only
      cases hkey : e.1.sameKey (.text role) with
      | true =>
          rw [hkey] at hrole
          cases hrole
          exact ⟨p, es, hes, hgiven, rfl⟩
      | false =>
          rw [hkey] at hrole
          exact ih hrole

end Config

open Data Entries NamingPolicy

namespace Config

/-! ## 4. Resolving -/

/-- The entries of all three layers. -/
def mergedLayers (set : String) (overrides file : Entries) : Entries :=
  (mergeEntries (mergeEntries (setDefaults set) file) overrides).set "template_set" (.text set)

/-- A known set is resolved over its defaults. -/
theorem resolve_of_chosen {overrides file : Entries} {asked : Option String} {set : String}
    (hset : set ∈ templateSets) (hchosen : chosenSet overrides file asked = .text set) :
    resolve overrides file asked = ofEntries (mergedLayers set overrides file) := by
  unfold resolve
  simp only [hchosen, hashable, Bool.not_true, Bool.false_eq_true, if_false]
  rw [if_pos (List.contains_iff_mem.mpr hset)]
  rfl

/-- **What resolving succeeds with.** -/
theorem resolve_eq_ok {overrides file : Entries} {asked : Option String} {c : Config} :
    resolve overrides file asked = .ok c ↔ ∃ set ∈ templateSets,
      chosenSet overrides file asked = .text set ∧
        ofEntries (mergedLayers set overrides file) = .ok c := by
  constructor
  · intro h
    unfold resolve at h
    dsimp only at h
    split at h
    · cases h
    · split at h
      · rename_i set hset
        split at h
        · rename_i hknown
          rw [hset] at h
          exact ⟨set, List.contains_iff_mem.mp hknown, hset, h⟩
        · cases h
      · obtain ⟨_, _, h⟩ := except_bind_eq_ok.mp h
        cases h
  · rintro ⟨set, hknown, hset, h⟩
    rw [resolve_of_chosen hknown hset]
    exact h

/-- The set is the first of the values named that counts as true. -/
theorem find?_chosenSet (overrides file : Entries) (asked : Option String) :
    [overrides.get? "template_set", file.get? "template_set", asked.map Data.text,
      some (.text defaultTemplateSet)].reduceOption.find? isTrue =
        some (chosenSet overrides file asked) := by
  have hfirst : ∀ (default : Data) (xs : List (Option Data)), default.isTrue = true →
      (xs ++ [some default]).reduceOption.find? isTrue = some (firstTrue default xs) := by
    intro default xs hdefault
    induction xs with
    | nil => simp [List.reduceOption, firstTrue, hdefault]
    | cons x xs ih =>
        cases x with
        | none => simpa [List.reduceOption, firstTrue] using ih
        | some v =>
            cases hv : v.isTrue with
            | true => simp [List.reduceOption, firstTrue, hv]
            | false => simpa [List.reduceOption, firstTrue, hv] using ih
  exact hfirst (.text defaultTemplateSet)
    [overrides.get? "template_set", file.get? "template_set", asked.map Data.text] rfl

/-- **What reading merged entries as settings succeeds with.** -/
theorem ofEntries_eq_ok {es : Entries} {c : Config} :
    ofEntries es = .ok c ↔ ∃ naming templates custom, readNaming es = .ok naming ∧
      readTemplates es = .ok templates ∧ readCustom es = .ok custom ∧ c = {
        templateSet := (es.get? "template_set").getD standard.templateSet
        templateDir := (es.get? "template_dir").getD standard.templateDir
        templateEncoding := (es.get? "template_encoding").getD standard.templateEncoding
        templates := .mapping templates
        naming
        subModuleName := (es.get? "sub_module_name").getD standard.subModuleName
        rootModuleName := (es.get? "root_module_name").getD standard.rootModuleName
        emitEmptyRootIndex := (es.get? "emit_empty_root_index").getD standard.emitEmptyRootIndex
        atomic := (es.get? "atomic").getD standard.atomic
        custom } := by
  unfold ofEntries
  constructor
  · intro h
    obtain ⟨naming, hnaming, h⟩ := except_bind_eq_ok.mp h
    obtain ⟨templates, htemplates, h⟩ := except_bind_eq_ok.mp h
    obtain ⟨custom, hcustom, h⟩ := except_bind_eq_ok.mp h
    exact ⟨naming, templates, custom, hnaming, htemplates, hcustom, (Except.ok.inj h).symm⟩
  · rintro ⟨naming, templates, custom, hnaming, htemplates, hcustom, rfl⟩
    rw [hnaming, htemplates, hcustom]
    rfl

/-! ## 5. What the layers hold -/

theorem areKeyed_setDefaults : ∀ set ∈ templateSets, areKeyed (setDefaults set) = true := by
  decide

variable {overrides file : Entries} {set : String}

theorem areKeyed_fileLayers (hset : set ∈ templateSets) (hfile : areKeyed file = true) :
    areKeyed (mergeEntries (setDefaults set) file) = true :=
  areKeyed_mergeEntries hfile (areKeyed_setDefaults set hset)

/-- A setting other than the set, in the entries of all layers. -/
theorem get?_mergedLayers (hset : set ∈ templateSets) (hover : areKeyed overrides = true)
    (hfile : areKeyed file = true) {name : String} (hname : "template_set" ≠ name) :
    (mergedLayers set overrides file).get? name =
      overlay (overlay ((setDefaults set).get? name) (file.get? name)) (overrides.get? name) := by
  unfold mergedLayers
  rw [get?_set_other _ _ hname]
  unfold get?
  rw [lookup?_mergeEntries hover (hasKeys_of_areKeyed (areKeyed_fileLayers hset hfile)) rfl,
    lookup?_mergeEntries hfile (hasKeys_of_areKeyed (areKeyed_setDefaults set hset)) rfl]

/-- What the entries of all layers hold in the naming section. -/
theorem at?_mergedLayers (hset : set ∈ templateSets) (hover : areKeyed overrides = true)
    (hfile : areKeyed file = true) {path : List Data} (hpath : ∀ key ∈ path, key.isKey = true) :
    (Data.mapping (mergedLayers set overrides file)).at? (.text "naming" :: path) =
      overlayAt (overlayAt ((Data.mapping (setDefaults set)).at? (.text "naming" :: path))
          ((Data.mapping file).at? (.text "naming" :: path))
          ((Data.mapping file).lacks (.text "naming" :: path)))
        ((Data.mapping overrides).at? (.text "naming" :: path))
        ((Data.mapping overrides).lacks (.text "naming" :: path)) := by
  have hkeys : ∀ key ∈ Data.text "naming" :: path, key.isKey = true := by
    intro key hkey
    rcases List.mem_cons.mp hkey with rfl | hkey
    · rfl
    · exact hpath key hkey
  have hother : (mergedLayers set overrides file).lookup? (.text "naming") =
      (mergeEntries (mergeEntries (setDefaults set) file) overrides).lookup? (.text "naming") :=
    get?_set_other _ _ (by decide)
  rw [← at?_mergeEntries (areKeyed_setDefaults set hset) hfile hkeys,
    ← at?_mergeEntries (areKeyed_fileLayers hset hfile) hover hkeys]
  simp only [at?, hother]

end Config

end DomainGen

namespace DomainGen

/-! ## 6. Policies -/

theorem PolicyOptions.policy?_eq_some {o : PolicyOptions} {p : NamingPolicy} :
    o.policy? = some p ↔ o = p.options := by
  constructor
  · intro h
    unfold PolicyOptions.policy? at h
    split at h
    · cases h
      rfl
    · cases h
  · rintro rfl
    exact PolicyOptions.policy?_options p

namespace Config

theorem optionsFor_eq_ok {c : Config} {kind : Option Kind} {o : PolicyOptions} :
    c.optionsFor kind = .ok o ↔ c.optionsOf? (roleOf kind) = some o := by
  unfold optionsFor
  cases c.optionsOf? (roleOf kind) with
  | none => constructor <;> intro h <;> cases h
  | some found => rw [Except.ok.injEq, Option.some.injEq]

/-- A configuration has a policy exactly if it has its options. -/
theorem policyFor_eq_ok {c : Config} {kind : Option Kind} {p : NamingPolicy} :
    c.policyFor kind = .ok p ↔ c.optionsOf? (roleOf kind) = some p.options := by
  rw [← optionsFor_eq_ok]
  constructor
  · intro h
    obtain ⟨o, ho, h⟩ := except_bind_eq_ok.mp h
    have hopt := except_mapError_eq_ok.mp ho
    split at h
    · rename_i q hq
      cases h
      rw [hopt, PolicyOptions.policy?_eq_some.mp hq]
    · cases h
  · intro h
    exact except_bind_eq_ok.mpr ⟨p.options, except_mapError_eq_ok.mpr h, rfl⟩

/-! ## 7. Checked configurations -/

/-- All options are those of policies, and every role has a template. -/
structure Checked (c : Config) : Prop where
  options : ∀ x ∈ c.naming, ∃ p : NamingPolicy, x.2 = p.options
  templates : ∀ role ∈ templateRoles, ∃ t, c.templateFor role = .ok t

theorem options_of_mapM {roles : Entries} : ∀ {naming : List (Data × PolicyOptions)},
    (roles.mapM fun (role, data) => do
      return (role, (← NamingPolicy.ofData role.plain data).options)) = Except.ok naming →
    ∀ x ∈ naming, ∃ p : NamingPolicy, x.2 = p.options := by
  induction roles with
  | nil =>
      intro naming h x hx
      rw [List.mapM_nil] at h
      cases h
      exact absurd hx List.not_mem_nil
  | cons entry roles ih =>
      intro naming h x hx
      rw [List.mapM_cons] at h
      obtain ⟨first, hfirst, h⟩ := except_bind_eq_ok.mp h
      obtain ⟨rest, hrest, h⟩ := except_bind_eq_ok.mp h
      cases h
      rcases List.mem_cons.mp hx with rfl | hx
      · obtain ⟨p, _, hp⟩ := except_bind_eq_ok.mp hfirst
        cases hp
        exact ⟨p, rfl⟩
      · exact ih hrest x hx

theorem options_readNaming {es : Entries} {naming : List (Data × PolicyOptions)}
    (h : readNaming es = .ok naming) : ∀ x ∈ naming, ∃ p : NamingPolicy, x.2 = p.options := by
  unfold readNaming at h
  split at h
  · cases h
    exact fun x hx => absurd hx List.not_mem_nil
  · obtain ⟨_, _, h⟩ := except_bind_eq_ok.mp h
    exact options_of_mapM h
  · cases h

/-- A role keeps its template, or is given another one. -/
theorem get?_readTemplates {es templates : Entries} (h : readTemplates es = .ok templates) :
    ∀ role ∈ templateRoles, ∃ t, templates.get? role = some t := by
  obtain ⟨given, _, h⟩ := except_bind_eq_ok.mp h
  obtain ⟨_, _, h⟩ := except_bind_eq_ok.mp h
  cases h
  intro role hrole
  have hdefault : ∀ role ∈ templateRoles, (defaultTemplates.get? role).isSome := by decide
  rw [Entries.get?_update]
  cases (Entries.ofList given).get? role with
  | some t => exact ⟨t, rfl⟩
  | none => exact Option.isSome_iff_exists.mp (hdefault role hrole)

/-- **The settings of merged entries are checked.** -/
theorem checked_ofEntries {es : Entries} {c : Config} (h : ofEntries es = .ok c) : c.Checked := by
  obtain ⟨naming, hnaming, h⟩ := except_bind_eq_ok.mp h
  obtain ⟨templates, htemplates, h⟩ := except_bind_eq_ok.mp h
  obtain ⟨custom, _, h⟩ := except_bind_eq_ok.mp h
  cases h
  refine ⟨options_readNaming hnaming, fun role hrole => ?_⟩
  obtain ⟨t, ht⟩ := get?_readTemplates htemplates role hrole
  refine ⟨t, ?_⟩
  unfold templateFor
  dsimp only
  rw [ht]

/-- **Resolving gives checked configurations.** -/
theorem checked_resolve {overrides file : Entries} {asked : Option String} {c : Config}
    (h : resolve overrides file asked = .ok c) : c.Checked := by
  obtain ⟨_, _, _, h⟩ := resolve_eq_ok.mp h
  exact checked_ofEntries h

/-- A checked configuration without warnings has the policies of all roles. -/
theorem Checked.policyFor {c : Config} (h : c.Checked) (hw : c.warnings = .ok [])
    (kind : Option Kind) : ∃ p, c.policyFor kind = .ok p := by
  obtain ⟨others, _, _, _, _, _, _, _, hmissing, heq⟩ := warnings_eq_ok hw
  have hothers : others = [] := by
    rw [List.append_assoc] at heq
    exact (List.append_eq_nil_iff.mp heq.symm).1
  have hrole : roleOf kind ∈ namingRoles := by
    cases kind with
    | none => decide
    | some k => cases k <;> decide
  cases hopt : c.optionsOf? (roleOf kind) with
  | none => exact absurd (hothers ▸ hmissing _ hrole hopt) List.not_mem_nil
  | some o =>
      obtain ⟨x, hx, hxo⟩ := Option.map_eq_some_iff.mp hopt
      obtain ⟨p, hp⟩ := h.options x (List.mem_of_find?_eq_some hx)
      exact ⟨p, policyFor_eq_ok.mpr (by rw [hopt, ← hxo, hp])⟩

end Config

end DomainGen
