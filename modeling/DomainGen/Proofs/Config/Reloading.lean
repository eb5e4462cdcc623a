import DomainGen.Proofs.Config.Precedence
import DomainGen.Proofs.Data.Json

/-!
# Configurations as a layer

A configuration can be written as entries. Merged over the defaults of its template set, these entries
give the configuration again: each setting is put back over its default, section by section, and what
is no setting is kept apart as before.

* `NamingPolicy.givenBy_mergeEntries` : options over other options give the same policy;
* `readNaming_again`, `readTemplates_again`, `readCustom_given`, `get?_layer_plain` : the sections;
* `ofEntries_layer` : **entries that give every setting its value are read as the settings**;
* `ofEntries_again` : the entries of a configuration that was read from members;
* `resolve_again` : **the entries of a resolved configuration resolve to it**.
-/

namespace DomainGen

open Data Entries

variable {fits : Int → Bool}

/-! ## 1. Policies -/

theorem get?_mergeEntries {es fs : Entries} (hes : areKeyed es = true) (hfs : areKeyed fs = true)
    (name : String) :
    (mergeEntries es fs).get? name = overlay (es.get? name) (fs.get? name) :=
  lookup?_mergeEntries hfs (hasKeys_of_areKeyed hes) rfl

theorem PolicyOptions.areMembers_entries (fits : Int → Bool) (p : NamingPolicy) :
    areMembers fits p.options.entries = true := rfl

/-- **The options of a policy, merged over other options, give the policy.** -/
theorem NamingPolicy.givenBy_mergeEntries (p : NamingPolicy) {es : Entries}
    (hes : areKeyed es = true) (hknown : ∀ e ∈ es, e.1.isAmong knownOptions = true) :
    p.GivenBy (mergeEntries es p.options.entries) := by
  have hown := areKeyed_of_areMembers (PolicyOptions.areMembers_entries anySize p)
  have hothers : (mergeEntries es p.options.entries).besides knownOptions = [] := by
    rw [besides_mergeEntries, besides_eq_nil hknown]
    rfl
  refine ⟨isAmong_of_besides_eq_nil hothers, ?_, ?_, ?_, ?_⟩
  · exact get?_mergeEntries hes hown "extension"
  · exact get?_mergeEntries hes hown "folder"
  · exact get?_mergeEntries hes hown "suffix"
  · rw [get?_mergeEntries hes hown]
    rfl

namespace Config

open NamingPolicy

variable {set : String} {es fs : Entries} {c : Config}

/-- A setting other than the set, over the defaults. -/
theorem get?_layer (hset : set ∈ templateSets) (hes : areKeyed es = true) {name : String}
    (hname : "template_set" ≠ name) : (mergedLayers set [] es).get? name =
      overlay ((setDefaults set).get? name) (es.get? name) :=
  get?_mergedLayers hset rfl hes hname

/-! ## 2. The naming section -/

/-- Every set has options for every role and no other options. -/
structure NamingDefaults (roles : Entries) : Prop where
  keyed : areKeyed roles = true
  keys : roles.map (·.1) = namingRoles.map .text
  options : ∀ e ∈ roles, ∃ options, e.2 = .mapping options ∧
    ∀ o ∈ options, o.1.isAmong knownOptions = true

theorem exists_namingDefaults : ∀ set ∈ templateSets, ∃ roles,
    (setDefaults set).get? "naming" = some (.mapping roles) ∧ NamingDefaults roles := by
  simp only [templateSets, List.forall_mem_cons]
  refine ⟨⟨_, rfl, rfl, rfl, ?_⟩, ⟨_, rfl, rfl, rfl, ?_⟩, fun _ h => absurd h List.not_mem_nil⟩
  all_goals
    simp only [Kind.all, List.map_cons, List.map_nil, ofFields, List.forall_mem_cons]
    exact ⟨⟨_, rfl, by decide⟩, ⟨_, rfl, by decide⟩, ⟨_, rfl, by decide⟩, ⟨_, rfl, by decide⟩,
      fun _ h => absurd h List.not_mem_nil⟩

/-- Lists with the same keys, item by item. -/
theorem forall₂_of_map_eq {α β γ : Type} {R : α → β → Prop} {f : α → γ} {g : β → γ} :
    ∀ {xs : List α} {ys : List β}, xs.map f = ys.map g →
      (∀ x ∈ xs, ∀ y ∈ ys, f x = g y → R x y) → List.Forall₂ R xs ys
  | [], [], _, _ => .nil
  | x :: xs, y :: ys, h, hR => by
      obtain ⟨hkey, hrest⟩ := List.cons.inj h
      refine .cons (hR x List.mem_cons_self y List.mem_cons_self hkey)
        (forall₂_of_map_eq hrest fun a ha b hb => ?_)
      exact hR a (List.mem_cons_of_mem _ ha) b (List.mem_cons_of_mem _ hb)

theorem map_roles_eq {roles : Entries} {naming : List (Data × PolicyOptions)}
    (h : List.Forall₂ PolicyRead roles naming) : naming.map (·.1) = roles.map (·.1) := by
  induction h with
  | nil => rfl
  | cons hx _ ih =>
      obtain ⟨p, options, _, _, rfl⟩ := hx
      exact congrArg (_ :: ·) ih

/-- Policies that are read from a section that was written over the defaults are those of all roles. -/
theorem map_naming_of_update {roles merged : Entries} (given : Entries)
    {naming : List (Data × PolicyOptions)}
    (hdefaults : NamingDefaults roles) (hmerged : es.get? "naming" = some (.mapping merged))
    (hkeys : merged.map (·.1) = (roles.update given).map (·.1)) (h : readNaming es = .ok naming) :
    naming.map (·.1) = namingRoles.map .text := by
  obtain ⟨hknown, hread⟩ := (readNaming_eq_ok hmerged).mp h
  rw [map_roles_eq hread, hkeys, map_update_of_known fun k hk => ?_, hdefaults.keys]
  rw [← hkeys] at hk
  obtain ⟨e, he, rfl⟩ := List.mem_map.mp hk
  exact has_of_isAmong hdefaults.keys (hknown e he)

/-- The policies that are read are those of all roles. -/
theorem map_naming {naming : List (Data × PolicyOptions)} (hset : set ∈ templateSets)
    (hes : areKeyed es = true) (h : readNaming (mergedLayers set [] es) = .ok naming) :
    naming.map (·.1) = namingRoles.map .text := by
  obtain ⟨roles, hroles, hdefaults⟩ := exists_namingDefaults set hset
  have hlayer : (mergedLayers set [] es).get? "naming" = _ := get?_layer hset hes (by decide)
  rw [hroles] at hlayer
  cases hgiven : es.get? "naming" with
  | none =>
      rw [hgiven] at hlayer
      exact map_naming_of_update [] hdefaults hlayer rfl h
  | some v =>
      rw [hgiven] at hlayer
      cases v with
      | mapping given => exact map_naming_of_update given hdefaults hlayer (map_mergeEntries given rfl) h
      | _ =>
          obtain ⟨_, heq⟩ := mapping_of_readNaming h hlayer
          cases heq

theorem map_namingEntries (c : Config) : c.namingEntries.map (·.1) = c.naming.map (·.1) := by
  unfold namingEntries
  rw [List.map_map]
  rfl

/-- The policies of all roles, as members. -/
theorem areMembers_namingEntries (hkeys : c.naming.map (·.1) = namingRoles.map .text)
    (hoptions : ∀ x ∈ c.naming, ∃ p : NamingPolicy, x.2 = p.options) :
    areMembers fits c.namingEntries = true := by
  refine areMembers_iff.mpr ⟨⟨namingRoles, by decide, (map_namingEntries c).trans hkeys⟩, ?_⟩
  intro e he
  obtain ⟨x, hx, rfl⟩ := List.mem_map.mp he
  obtain ⟨p, hp⟩ := hoptions x hx
  show (Data.mapping x.2.entries).isJson fits = true
  rw [hp]
  exact PolicyOptions.areMembers_entries fits p

/-- The options of a role, merged over its defaults, give its policy. -/
theorem policyRead_mergeEntries {roles : Entries} (hdefaults : NamingDefaults roles)
    (hkeys : c.naming.map (·.1) = namingRoles.map .text)
    (hoptions : ∀ x ∈ c.naming, ∃ p : NamingPolicy, x.2 = p.options) {e : Data × Data}
    {x : Data × PolicyOptions} (he : e ∈ mergeEntries roles c.namingEntries) (hx : x ∈ c.naming)
    (hkey : e.1 = x.1) : PolicyRead e x := by
  have hmembers : areMembers anySize c.namingEntries = true := areMembers_namingEntries hkeys hoptions
  have hown := areKeyed_of_areMembers hmembers
  have hroles := hdefaults.keyed
  obtain ⟨p, hp⟩ := hoptions x hx
  obtain ⟨d, hd, hsame⟩ : ∃ d ∈ roles, d.1 = x.1 := by
    have hmem := List.mem_map_of_mem (f := (·.1)) hx
    rw [hkeys, ← hdefaults.keys] at hmem
    exact List.mem_map.mp hmem
  obtain ⟨options, hoptions, hknown⟩ := hdefaults.options d hd
  have hbelow : Entries.lookup? roles x.1 = some (.mapping options) := by
    rw [← hsame, ← hoptions]
    exact lookup?_of_mem hroles hd
  have habove : Entries.lookup? c.namingEntries x.1 = some (.mapping p.options.entries) := by
    rw [← hp]
    exact lookup?_of_mem hown (List.mem_map_of_mem (f := fun (y : Data × PolicyOptions) =>
      (y.1, Data.mapping y.2.entries)) hx)
  have hvalue : e.2 = .mapping (mergeEntries options p.options.entries) := by
    have hfound := lookup?_of_mem (areKeyed_mergeEntries hown hroles) he
    rw [hkey, lookup?_mergeEntries hown (hasKeys_of_areKeyed hroles)
      (by rw [← hsame]; exact hasKeys_of_areKeyed hroles d hd), hbelow, habove] at hfound
    exact (Option.some.inj hfound).symm
  refine ⟨p, _, hvalue, givenBy_mergeEntries p (isKeyed_of_lookup? hroles hbelow) hknown, ?_⟩
  rw [hkey, ← hp]

/-- **The policies, written as entries, are read as the policies.** -/
theorem readNaming_again (hset : set ∈ templateSets) (hfs : areKeyed fs = true)
    (hkeys : c.naming.map (·.1) = namingRoles.map .text)
    (hoptions : ∀ x ∈ c.naming, ∃ p : NamingPolicy, x.2 = p.options)
    (h : fs.get? "naming" = some (.mapping c.namingEntries)) :
    readNaming (mergedLayers set [] fs) = .ok c.naming := by
  obtain ⟨roles, hroles, hdefaults⟩ := exists_namingDefaults set hset
  have hlayer : (mergedLayers set [] fs).get? "naming" =
      some (.mapping (mergeEntries roles c.namingEntries)) := by
    rw [get?_layer hset hfs (by decide), hroles, h]
    rfl
  have hmap : (mergeEntries roles c.namingEntries).map (·.1) = namingRoles.map .text := by
    rw [map_mergeEntries _ rfl, map_update_of_has fun e he => ?_, hdefaults.keys]
    refine has_of_isAmong hdefaults.keys (isAmong_of_map_eq ?_ e he)
    exact (map_namingEntries c).trans hkeys
  exact (readNaming_eq_ok hlayer).mpr ⟨isAmong_of_map_eq hmap,
    forall₂_of_map_eq (hmap.trans hkeys.symm) fun e he x hx hkey =>
      policyRead_mergeEntries hdefaults hkeys hoptions he hx hkey⟩

/-! ## 3. The templates -/

theorem optionalEntries_mapping (es : Entries) : optionalEntries (some (.mapping es)) = .ok es := by
  cases es <;> rfl

theorem readTemplates_eq_ok {templates : Entries} :
    readTemplates es = .ok templates ↔ ∃ given, optionalEntries (es.get? "templates") = .ok given ∧
      templates = defaultTemplates.update given ∧
      ∀ e ∈ templates, e.1.isAmong templateRoles = true := by
  unfold readTemplates
  rw [except_bind_eq_ok]
  refine exists_congr fun given => and_congr_right fun _ => ?_
  dsimp only
  rw [except_bind_eq_ok]
  constructor
  · rintro ⟨_, hknown, h⟩
    cases h
    exact ⟨rfl, refuseUnknown_eq_ok.mp hknown⟩
  · rintro ⟨rfl, hknown⟩
    exact ⟨(), refuseUnknown_eq_ok.mpr hknown, rfl⟩

/-- **The templates that are read are those of all roles.** -/
theorem map_readTemplates {templates : Entries} (h : readTemplates es = .ok templates) :
    templates.map (·.1) = templateRoles.map .text := by
  obtain ⟨given, _, rfl, hknown⟩ := readTemplates_eq_ok.mp h
  have hdefault : defaultTemplates.map (·.1) = templateRoles.map .text := rfl
  rw [map_update_of_known fun k hk => ?_, hdefault]
  obtain ⟨e, he, rfl⟩ := List.mem_map.mp hk
  exact has_of_isAmong hdefault (hknown e he)

/-- The templates that are read are members if the values are. -/
theorem areMembers_readTemplates {templates : Entries} (hes : areMembers fits es = true)
    (h : readTemplates es = .ok templates) :
    areMembers fits templates = true ∧ templates.map (·.1) = templateRoles.map .text := by
  have hkeys := map_readTemplates h
  obtain ⟨given, hgiven, rfl, hknown⟩ := readTemplates_eq_ok.mp h
  have hvalues : ∀ e ∈ given, e.2.isJson fits = true := by
    unfold optionalEntries at hgiven
    split at hgiven
    · cases hgiven
      exact fun _ he => absurd he List.not_mem_nil
    · rename_i x hx
      split at hgiven
      · exact isJson_of_asEntries (isJson_of_lookup? hes hx) (except_mapError_eq_ok.mp hgiven)
      · cases hgiven
        exact fun _ he => absurd he List.not_mem_nil
  refine ⟨areMembers_iff.mpr ⟨⟨templateRoles, by decide, hkeys⟩, ?_⟩, hkeys⟩
  exact forall_mem_update (P := fun v => v.isJson fits = true)
    (areMembers_iff.mp (show areMembers fits defaultTemplates = true from rfl)).2 hvalues

/-- The templates every set has by default: those of some roles, none of them a mapping. -/
structure TemplateDefaults (set : String) (own : Entries) : Prop where
  keyed : areKeyed own = true
  known : ∀ e ∈ own, e.1.isAmong templateRoles = true
  plain : ∀ name es, own.get? name ≠ some (.mapping es)
  overlaid : ∀ given, areKeyed given = true →
    overlay ((setDefaults set).get? "templates") (some (.mapping given)) =
      some (.mapping (mergeEntries own given))

theorem exists_templateDefaults : ∀ set ∈ templateSets, ∃ own, TemplateDefaults set own := by
  simp only [templateSets, List.forall_mem_cons]
  refine ⟨⟨[], rfl, fun _ h => absurd h List.not_mem_nil, fun _ _ h => by (cases h), fun given h => ?_⟩,
    ⟨ofFields [(subModuleRole, .text "index.j2")], rfl, ?_, fun name es h => ?_, fun _ _ => rfl⟩,
    fun _ h => absurd h List.not_mem_nil⟩
  · rw [mergeEntries_nil h]
    rfl
  · exact List.forall_mem_singleton.mpr (by decide)
  · unfold get? ofFields at h
    rw [List.map_cons, lookup?_cons] at h
    split at h <;> cases h

/-- **The templates, written as entries, are read as the templates.** -/
theorem readTemplates_again (hset : set ∈ templateSets) (hfs : areKeyed fs = true)
    {templates : Entries} (hkeyed : areKeyed templates = true)
    (hkeys : templates.map (·.1) = templateRoles.map .text)
    (h : fs.get? "templates" = some (.mapping templates)) :
    readTemplates (mergedLayers set [] fs) = .ok templates := by
  obtain ⟨own, hown⟩ := exists_templateDefaults set hset
  have hmerged := areKeyed_mergeEntries hkeyed hown.keyed
  have hlayer : (mergedLayers set [] fs).get? "templates" =
      some (.mapping (mergeEntries own templates)) := by
    rw [get?_layer hset hfs (by decide), h]
    exact hown.overlaid templates hkeyed
  have hgiven : ∀ e ∈ mergeEntries own templates, e.1.isAmong templateRoles = true := by
    refine isAmong_of_besides_eq_nil ?_
    rw [besides_mergeEntries, besides_eq_nil hown.known,
      besides_eq_nil (isAmong_of_map_eq hkeys)]
    rfl
  have hdefault : defaultTemplates.map (·.1) = templateRoles.map .text := rfl
  have hwritten : (defaultTemplates.update (mergeEntries own templates)).map (·.1) =
      templateRoles.map .text := by
    rw [map_update_of_has fun e he => has_of_isAmong hdefault (hgiven e he), hdefault]
  refine readTemplates_eq_ok.mpr ⟨mergeEntries own templates, ?_, ?_, isAmong_of_map_eq hkeys⟩
  · rw [hlayer, optionalEntries_mapping]
  refine ext_lookup? hkeyed (areKeyed_update rfl hmerged) (hkeys.trans hwritten.symm) fun k hk => ?_
  obtain ⟨e, he, rfl⟩ := List.mem_map.mp hk
  have hfound := lookup?_of_mem hkeyed he
  rw [hkeys] at hk
  obtain ⟨role, _, hrole⟩ := List.mem_map.mp hk
  rw [← hrole] at hfound ⊢
  have hupper : (ofList (mergeEntries own templates)).get? role = some e.2 := by
    rw [ofList, update_of_new hmerged fun _ _ => rfl, List.nil_append,
      get?_mergeEntries hown.keyed hkeyed]
    unfold get?
    rw [hfound]
    exact congrArg some (mergeValue_of_not_mapping (hown.plain role) _)
  have := get?_update defaultTemplates (mergeEntries own templates) role
  rw [hupper] at this
  rw [hfound]
  exact this.symm

/-! ## 4. The other entries -/

theorem isField_eq (x : Data) : isField x = x.isAmong fieldNames := by
  cases x <;> rfl

theorem besides_setDefaults : ∀ set ∈ templateSets, (setDefaults set).besides fieldNames = [] := by
  decide

/-- The other entries of the layers are those that were given. -/
theorem besides_layer (hset : set ∈ templateSets) (hes : areMembers fits es = true) :
    (mergedLayers set [] es).besides fieldNames = es.besides fieldNames := by
  unfold mergedLayers
  rw [besides_set _ _ (by decide)]
  show (mergeEntries (setDefaults set) es).besides fieldNames = _
  rw [besides_mergeEntries, besides_setDefaults set hset,
    mergeEntries_nil (areKeyed_of_areMembers (areMembers_besides fieldNames hes))]

theorem get?_custom_layer (hset : set ∈ templateSets) (hes : areKeyed es = true) :
    (mergedLayers set [] es).get? "custom" = es.get? "custom" := by
  have hdefault : ∀ set ∈ templateSets, ((setDefaults set).get? "custom").isNone = true := by
    decide
  rw [get?_layer hset hes (by decide), Option.isNone_iff_eq_none.mp (hdefault set hset)]
  cases es.get? "custom" with
  | none => rfl
  | some v => exact congrArg some (mergeValue_none v)

/-- What is read as custom entries: the value that is given as such, with the entries that are no
    settings written over it. -/
theorem readCustom_eq (es : Entries) : readCustom es =
    if (es.besides fieldNames).isEmpty then .ok ((es.get? "custom").getD (.mapping []))
    else (optionalEntries (es.get? "custom")).map fun given =>
      .mapping (given.update (es.besides fieldNames)) := by
  have hothers : (es.filter fun e => !isField e.1) = es.besides fieldNames :=
    List.filter_congr fun e _ => congrArg (!·) (isField_eq e.1)
  unfold readCustom
  dsimp only
  rw [hothers]
  rfl

/-- The defaults have no custom entries. -/
theorem readCustom_layer (hset : set ∈ templateSets) (hes : areMembers fits es = true) :
    readCustom (mergedLayers set [] es) = readCustom es := by
  rw [readCustom_eq, readCustom_eq, besides_layer hset hes,
    get?_custom_layer hset (areKeyed_of_areMembers hes)]

/-- **The entries that are no settings are written over the custom entries that are given.** -/
theorem readCustom_given {given : Entries}
    (h : (es.get? "custom").getD (.mapping []) = .mapping given) :
    readCustom es = .ok (.mapping (given.update (es.besides fieldNames))) := by
  have hentries : optionalEntries (es.get? "custom") = .ok given := by
    cases hcustom : es.get? "custom" with
    | none =>
        rw [hcustom] at h
        cases h
        rfl
    | some v =>
        rw [hcustom] at h
        cases h
        exact optionalEntries_mapping given
  rw [readCustom_eq]
  split
  · rename_i hempty
    rw [h, List.isEmpty_iff.mp hempty]
    rfl
  · rw [hentries]
    rfl

/-! ## 5. The settings -/

/-- The names of the plain settings. -/
def plainNames : List String := (standard.plainSettings defaultTemplateSet).map (·.1)

/-- A plain setting comes back over its default. -/
theorem get?_layer_plain (hset : set ∈ templateSets) (hfs : areKeyed fs = true) {name : String}
    (hname : name ∈ plainNames) {v : Data} (h : fs.get? name = some v) :
    (mergedLayers set [] fs).get? name = some v := by
  obtain ⟨x, hx, rfl⟩ : ∃ x ∈ standard.plainSettings set, x.1 = name := List.mem_map.mp hname
  obtain ⟨hother, hnot⟩ := setDefaults_plain set hset x hx
  rw [get?_layer hset hfs hother, h]
  refine congrArg some (mergeValue_of_not_mapping (fun es hes => ?_) v)
  rw [hes] at hnot
  cases hnot

theorem areMembers_mergedLayers (hset : set ∈ templateSets) (hes : areMembers fits es = true) :
    areMembers fits (mergedLayers set [] es) = true := by
  have hdefaults : ∀ set ∈ templateSets, areMembers fits (setDefaults set) = true := by
    simp only [templateSets, List.forall_mem_cons]
    exact ⟨rfl, rfl, fun _ h => absurd h List.not_mem_nil⟩
  exact areMembers_put (areMembers_mergeEntries es hes (hdefaults set hset)) rfl

/-- The settings of a configuration that was read from members have JSON forms. -/
theorem areMembers_ownEntries (hset : set ∈ templateSets) (hes : areMembers fits es = true)
    (h : ofEntries (mergedLayers set [] es) = .ok c) : areMembers fits c.ownEntries = true := by
  have hlayer := areMembers_mergedLayers hset hes
  have hsetting : ∀ (name : String) {default : Data}, default.isJson fits = true →
      (((mergedLayers set [] es).get? name).getD default).isJson fits = true := by
    intro name default hdefault
    cases hfound : (mergedLayers set [] es).get? name with
    | none => exact hdefault
    | some v => exact isJson_of_lookup? hlayer hfound
  obtain ⟨naming, templates, custom, hnaming, htemplates, _, hc⟩ := ofEntries_eq_ok.mp h
  have hnamed : areMembers fits c.namingEntries = true := by
    refine areMembers_namingEntries ?_ ?_
    · rw [hc]
      exact map_naming hset (areKeyed_of_areMembers hes) hnaming
    · rw [hc]
      exact options_readNaming hnaming
  rw [hc] at hnamed ⊢
  refine areMembers_ofFields (by simp) ?_
  simp only [List.forall_mem_cons]
  exact ⟨hsetting _ rfl, hsetting _ rfl, hsetting _ rfl, (areMembers_readTemplates hlayer htemplates).1,
    hnamed, hsetting _ rfl, hsetting _ rfl, hsetting _ rfl, hsetting _ rfl,
    fun _ h => absurd h List.not_mem_nil⟩

/-! ## 6. The configuration -/

/-- The names of the settings other than the custom entries. -/
def settingNames : List String := fieldNames.erase "custom"

/-- **Entries that give every setting the value it has are read as the configuration**, but for the
    custom entries, which are read anew. -/
theorem ofEntries_layer (hset : set ∈ templateSets) (hes : areMembers fits es = true)
    (h : ofEntries (mergedLayers set [] es) = .ok c) (hfs : areMembers fits fs = true)
    (hown : ∀ name ∈ settingNames, fs.get? name = c.ownEntries.get? name) :
    ofEntries (mergedLayers set [] fs) =
      (readCustom fs).map fun custom => { c with custom } := by
  have hkeyed := areKeyed_of_areMembers hfs
  obtain ⟨naming, templates, custom, hnaming, htemplates, _, hc⟩ := ofEntries_eq_ok.mp h
  have hplain : ∀ {name : String} {v : Data} (default : Data), name ∈ plainNames →
      name ∈ settingNames → c.ownEntries.get? name = some v →
      ((mergedLayers set [] fs).get? name).getD default = v := by
    intro name v default hname hsetting hv
    rw [get?_layer_plain hset hkeyed hname ((hown name hsetting).trans hv)]
    rfl
  have hnamed : readNaming (mergedLayers set [] fs) = .ok c.naming := by
    refine readNaming_again hset hkeyed ?_ ?_ ((hown "naming" (by decide)).trans rfl)
    · rw [hc]
      exact map_naming hset (areKeyed_of_areMembers hes) hnaming
    · rw [hc]
      exact options_readNaming hnaming
  have hfilled : readTemplates (mergedLayers set [] fs) = .ok templates := by
    obtain ⟨hmembers, hkeys⟩ := areMembers_readTemplates (areMembers_mergedLayers hset hes)
      htemplates
    refine readTemplates_again hset hkeyed (areKeyed_of_areMembers hmembers) hkeys
      ((hown "templates" (by decide)).trans ?_)
    rw [hc]
    rfl
  have hset' : ((mergedLayers set [] fs).get? "template_set").getD standard.templateSet =
      c.templateSet := by
    rw [hc]
    unfold mergedLayers
    rw [get?_set_self, get?_set_self]
  have htemplatesOf : c.templates = .mapping templates := by rw [hc]
  have hvalue : ∀ custom, readCustom (mergedLayers set [] fs) = .ok custom →
      ofEntries (mergedLayers set [] fs) = .ok { c with custom } := by
    intro custom hcustom
    refine ofEntries_eq_ok.mpr ⟨c.naming, templates, custom, hnamed, hfilled, hcustom, ?_⟩
    rw [hset', hplain standard.templateDir (by decide) (by decide) rfl,
      hplain standard.templateEncoding (by decide) (by decide) rfl,
      hplain standard.subModuleName (by decide) (by decide) rfl,
      hplain standard.rootModuleName (by decide) (by decide) rfl,
      hplain standard.emitEmptyRootIndex (by decide) (by decide) rfl,
      hplain standard.atomic (by decide) (by decide) rfl, ← htemplatesOf]
  rw [readCustom_layer hset hfs] at hvalue
  cases hread : readCustom fs with
  | ok custom => exact hvalue custom hread
  | error problem =>
      unfold ofEntries
      rw [hnamed, hfilled, readCustom_layer hset hfs, hread]
      rfl

theorem besides_ownEntries (c : Config) : c.ownEntries.besides fieldNames = [] := rfl

/-- Beside entries that are no settings the settings are found. -/
theorem get?_update_besides (es : Entries) {name : String} (hname : name ∈ fieldNames) :
    (c.ownEntries.update (es.besides fieldNames)).get? name = c.ownEntries.get? name := by
  refine get?_update_of_not_mem fun hmem => ?_
  obtain ⟨e, he, heq⟩ := List.mem_map.mp hmem
  have hnot := (List.mem_filter.mp he).2
  rw [heq, isAmong_iff.mpr hname] at hnot
  cases hnot

theorem update_nil_besides (hes : areMembers fits es = true) :
    Entries.update [] (es.besides fieldNames) = es.besides fieldNames := by
  rw [update_of_new (areKeyed_of_areMembers (areMembers_besides fieldNames hes)) fun _ _ => rfl,
    List.nil_append]

theorem besides_update_besides (hes : areMembers fits es = true) :
    (c.ownEntries.update (es.besides fieldNames)).besides fieldNames = es.besides fieldNames := by
  have htwice : (es.besides fieldNames).besides fieldNames = es.besides fieldNames := by
    simp [besides]
  rw [besides_update, besides_ownEntries, htwice, update_nil_besides hes]

/-- The set of a configuration is the set whose defaults it was read over. -/
theorem templateSet_ofEntries (h : ofEntries (mergedLayers set [] es) = .ok c) :
    c.templateSet = .text set := by
  obtain ⟨naming, templates, custom, _, _, _, rfl⟩ := ofEntries_eq_ok.mp h
  unfold mergedLayers
  rw [get?_set_self]
  rfl

/-- **The entries of a configuration that was read from members are read as the configuration.** -/
theorem ofEntries_again (hset : set ∈ templateSets) (hes : areMembers fits es = true)
    (hcustom : es.get? "custom" = none) (h : ofEntries (mergedLayers set [] es) = .ok c) :
    ∃ fs, c.entries = .ok fs ∧ areMembers fits fs = true ∧ fs.get? "template_set" = some (.text set) ∧
      ofEntries (mergedLayers set [] fs) = .ok c := by
  have hmembers := areMembers_update (areMembers_ownEntries hset hes h)
    (areMembers_besides fieldNames hes)
  have hnothing : (es.get? "custom").getD (.mapping []) = .mapping [] := by rw [hcustom]; rfl
  have hcustomOf : c.custom = .mapping (es.besides fieldNames) := by
    obtain ⟨_, _, custom, _, _, hread, hc⟩ := ofEntries_eq_ok.mp h
    rw [readCustom_layer hset hes, readCustom_given hnothing, update_nil_besides hes] at hread
    rw [hc]
    exact (Except.ok.inj hread).symm
  refine ⟨c.ownEntries.update (es.besides fieldNames), ?_, hmembers, ?_, ?_⟩
  · unfold entries
    rw [hcustomOf]
    rfl
  · rw [get?_update_besides es (by decide), ← templateSet_ofEntries h]
    rfl
  have hagain : readCustom (c.ownEntries.update (es.besides fieldNames)) = .ok c.custom := by
    have hbare : ((c.ownEntries.update (es.besides fieldNames)).get? "custom").getD (.mapping []) =
        .mapping [] := by
      rw [get?_update_besides es (by decide)]
      rfl
    rw [readCustom_given hbare, besides_update_besides hes, update_nil_besides hes, hcustomOf]
  rw [ofEntries_layer hset hes h hmembers fun name hname =>
    get?_update_besides es (List.mem_of_mem_erase hname), hagain]
  rfl

/-- Entries that name a set are resolved over its defaults. -/
theorem resolve_of_set (hset : set ∈ templateSets)
    (h : fs.get? "template_set" = some (.text set)) :
    resolve [] fs none = ofEntries (mergedLayers set [] fs) := by
  have htrue : ∀ set ∈ templateSets, (Data.text set).isTrue = true := by decide
  refine resolve_of_chosen hset ?_
  unfold chosenSet
  rw [h]
  show firstTrue _ [none, some (.text set), none] = _
  rw [firstTrue, firstTrue, if_pos (htrue set hset)]

/-- **The entries of a resolved configuration resolve to it.** -/
theorem resolve_again {asked : Option String} (hes : areMembers fits es = true)
    (hcustom : es.get? "custom" = none) (h : resolve es [] asked = .ok c) :
    ∃ fs, c.entries = .ok fs ∧ areMembers fits fs = true ∧ resolve [] fs none = .ok c := by
  obtain ⟨set, hset, _, hread⟩ := resolve_eq_ok.mp h
  obtain ⟨fs, hentries, hmembers, hnamed, hagain⟩ := ofEntries_again hset hes hcustom hread
  exact ⟨fs, hentries, hmembers, (resolve_of_set hset hnamed).trans hagain⟩

end Config

end DomainGen
