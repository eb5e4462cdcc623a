import DomainGen.Proofs.Config.FileEntries
import DomainGen.Proofs.Config.Reloading

/-!
# What else can go wrong with settings

Entries are checked section by section: the roles, the options of one role after the other, the
templates, the custom entries. Each check has an error of its own for what it does not accept. Where a
check cannot put its error into words, or reads as entries what is none, it ends in a fault instead.

* `refuseUnknown_fault` : unknown keys cannot be named if some key is no text;
* `readNaming_fault`, `readTemplates_fault`, `readCustom_fault` : **exactly when each section ends in a
  fault**;
* `EntriesFault`, `ofEntries_fault` : these, one after the other;
* `ResolveFault`, `resolve_fault` : **exactly when resolving ends in a fault**.
-/

namespace DomainGen

open Data Entries

variable {f : Fault}

/-! ## 1. Unknown keys -/

theorem allTexts?_eq_none {xs : List Data} : allTexts? xs = none ↔ ∃ x ∈ xs, x.text? = none := by
  induction xs with
  | nil =>
      refine iff_of_false (fun h => by cases h) ?_
      rintro ⟨_, h, _⟩
      exact absurd h List.not_mem_nil
  | cons x xs ih =>
      cases x with
      | text s =>
          have hrest : allTexts? (.text s :: xs) = none ↔ allTexts? xs = none := Option.map_eq_none_iff
          rw [hrest, ih]
          constructor
          · rintro ⟨y, hy, hnone⟩
            exact ⟨y, List.mem_cons_of_mem _ hy, hnone⟩
          · rintro ⟨y, hy, hnone⟩
            rcases List.mem_cons.mp hy with rfl | hy
            · cases hnone
            · exact ⟨y, hy, hnone⟩
      | _ => exact ⟨fun _ => ⟨_, List.mem_cons_self, rfl⟩, fun _ => rfl⟩

/-- **Unknown keys cannot be named if some key is no text.** -/
theorem refuseUnknown_fault {es : Entries} {known : List String}
    {problem : List String → ConfigError} :
    refuseUnknown es known problem = .error (.fault f) ↔ f = .wrongKind ∧ es.hasTexts = false := by
  have hnone : ∀ {p : Data → Bool}, (∀ k : Data, k.text? = none → p k = true) →
      (allTexts? ((es.map (·.1)).filter p) = none ↔ es.hasTexts = false) := by
    intro p hp
    rw [allTexts?_eq_none, hasTexts, List.all_eq_false]
    constructor
    · rintro ⟨k, hk, htext⟩
      obtain ⟨e, he, rfl⟩ := List.mem_map.mp (List.mem_filter.mp hk).1
      exact ⟨e, he, by rw [htext]; exact Bool.false_ne_true⟩
    · rintro ⟨e, he, hno⟩
      have htext : e.1.text? = none := Option.not_isSome_iff_eq_none.mp hno
      exact ⟨e.1, List.mem_filter.mpr ⟨List.mem_map_of_mem he, hp _ htext⟩, htext⟩
  unfold refuseUnknown
  dsimp only
  generalize hunknown : ((es.map (·.1)).filter _) = unknown
  have hfault : allTexts? unknown = none ↔ es.hasTexts = false := by
    rw [← hunknown]
    refine hnone fun k hk => ?_
    cases k with
    | text s => cases hk
    | _ => rfl
  split
  · rename_i hempty
    rw [List.isEmpty_iff.mp hempty] at hfault
    have hsome : es.hasTexts ≠ false := fun h => by cases hfault.mpr h
    exact ⟨fun h => (by cases h), fun h => absurd h.2 hsome⟩
  · split
    · rename_i names hnames
      rw [hnames] at hfault
      have hsome : es.hasTexts ≠ false := fun h => by cases hfault.mpr h
      exact ⟨fun h => (by cases h), fun h => absurd h.2 hsome⟩
    · rename_i hnames
      refine ⟨fun h => ?_, fun h => ?_⟩
      · cases h
        exact ⟨rfl, hfault.mp hnames⟩
      · rw [h.1]

/-! ## 2. The sections -/

/-- Options end in a fault exactly if one of them has a name that is no text. -/
theorem NamingPolicy.ofData_fault (role : String) {data : Data} :
    ofData role data = .error (.fault f) ↔
      f = .wrongKind ∧ ∃ options : Entries, data = .mapping options ∧ options.hasTexts = false := by
  have hoption : ∀ es name, FailsAs (fun p => ∃ e, p = .config e) (textOption role es name) := by
    intro es name
    unfold textOption
    split
    · exact .ok _
    · exact .error ⟨_, rfl⟩
  cases data with
  | mapping options =>
      have hrest : ∀ {x : Except Failure NamingPolicy},
          FailsAs (fun p => ∃ e, p = .config e) x → x ≠ .error (.fault f) := by
        intro x hx h
        obtain ⟨e, he⟩ := hx _ h
        cases he
      unfold ofData
      dsimp only
      rw [except_bind_eq_error, refuseUnknown_fault]
      constructor
      · rintro (h | ⟨_, _, h⟩)
        · exact ⟨h.1, options, rfl, h.2⟩
        · refine absurd h (hrest ?_)
          split
          · exact .error ⟨_, rfl⟩
          · refine .bind (hoption _ _) fun _ => .bind (hoption _ _) fun _ =>
              .bind (hoption _ _) fun _ => ?_
            split
            · exact .ok _
            · exact .ok _
            · exact .error ⟨_, rfl⟩
      · rintro ⟨hf, _, heq, htexts⟩
        cases heq
        exact .inl ⟨hf, htexts⟩
  | _ =>
      constructor
      · intro h
        cases h
      · rintro ⟨_, _, heq, _⟩
        cases heq

namespace Config

open NamingPolicy

variable {es : Entries}

/-- A role or an option has a name that is no text; the roles before it have policies. -/
inductive NamingFault (es : Entries) : Prop where
  /-- A role. -/
  | role {roles : Entries} (h : es.get? "naming" = some (.mapping roles))
      (htexts : roles.hasTexts = false) : NamingFault es
  /-- An option. -/
  | option {before behind options : Entries} {role : Data}
      (h : es.get? "naming" = some (.mapping (before ++ (role, .mapping options) :: behind)))
      (hknown : ∀ e ∈ before ++ (role, .mapping options) :: behind, e.1.isAmong namingRoles = true)
      (hbefore : ∀ e ∈ before, ∃ p, ofData e.1.plain e.2 = .ok p)
      (htexts : options.hasTexts = false) : NamingFault es

/-- What the value of a role is read as. -/
def rolePolicy (e : Data × Data) : Except Failure (Data × PolicyOptions) := do
  return (e.1, (← ofData e.1.plain e.2).options)

theorem exists_rolePolicy {e : Data × Data} :
    (∃ x, rolePolicy e = .ok x) ↔ ∃ p, ofData e.1.plain e.2 = .ok p := by
  constructor
  · rintro ⟨x, hx⟩
    obtain ⟨p, hp, _⟩ := except_bind_eq_ok.mp hx
    exact ⟨p, hp⟩
  · rintro ⟨p, hp⟩
    exact ⟨_, except_bind_eq_ok.mpr ⟨p, hp, rfl⟩⟩

theorem rolePolicy_fault {e : Data × Data} : rolePolicy e = .error (.fault f) ↔
    f = .wrongKind ∧ ∃ options : Entries, e.2 = .mapping options ∧ options.hasTexts = false := by
  rw [← ofData_fault e.1.plain]
  unfold rolePolicy
  rw [except_bind_eq_error]
  constructor
  · rintro (h | ⟨_, _, h⟩)
    · exact h
    · cases h
  · exact .inl

theorem readNaming_mapping {roles : Entries} (h : es.get? "naming" = some (.mapping roles)) :
    readNaming es =
      (refuseUnknown roles namingRoles .unknownNamingRoles >>= fun _ => roles.mapM rolePolicy) := by
  unfold readNaming
  rw [h]
  rfl

/-- **Policies end in a fault exactly if a name is no text.** -/
theorem readNaming_fault :
    readNaming es = .error (.fault f) ↔ f = .wrongKind ∧ NamingFault es := by
  constructor
  · intro h
    cases hnaming : es.get? "naming" with
    | none =>
        unfold readNaming at h
        rw [hnaming] at h
        cases h
    | some v =>
        cases v with
        | mapping roles =>
            rw [readNaming_mapping hnaming, except_bind_eq_error, refuseUnknown_fault] at h
            rcases h with ⟨hf, htexts⟩ | ⟨_, hknown, h⟩
            · exact ⟨hf, .role hnaming htexts⟩
            · obtain ⟨before, e, behind, rfl, hbefore, he⟩ := mapM_eq_error.mp h
              obtain ⟨role, data⟩ := e
              obtain ⟨hf, options, rfl, htexts⟩ := rolePolicy_fault.mp he
              exact ⟨hf, .option hnaming (refuseUnknown_eq_ok.mp hknown)
                (fun e he => exists_rolePolicy.mp (hbefore e he)) htexts⟩
        | _ =>
            unfold readNaming at h
            rw [hnaming] at h
            cases h
  · rintro ⟨rfl, h⟩
    cases h with
    | role h htexts =>
        rw [readNaming_mapping h, except_bind_eq_error, refuseUnknown_fault]
        exact .inl ⟨rfl, htexts⟩
    | option h hknown hbefore htexts =>
        rw [readNaming_mapping h, except_bind_eq_error]
        refine .inr ⟨(), refuseUnknown_eq_ok.mpr hknown, mapM_eq_error.mpr ⟨_, _, _, rfl,
          fun e he => exists_rolePolicy.mpr (hbefore e he), ?_⟩⟩
        exact rolePolicy_fault.mpr ⟨rfl, _, rfl, htexts⟩

/-- An optional value ends in a fault exactly if it counts as true and cannot be read as entries. -/
theorem optionalEntries_fault {x : Option Data} : optionalEntries x = .error (.fault f) ↔
    ∃ v, x = some v ∧ v.isTrue = true ∧ v.asEntries = .error f := by
  cases x with
  | none =>
      constructor
      · intro h
        cases h
      · rintro ⟨_, h, _⟩
        cases h
  | some v =>
      unfold optionalEntries
      dsimp only
      cases htrue : v.isTrue with
      | false =>
          constructor
          · intro h
            cases h
          · rintro ⟨_, h, hv, _⟩
            cases h
            rw [htrue] at hv
            cases hv
      | true =>
          rw [if_pos rfl, except_mapError_eq_error]
          constructor
          · rintro ⟨g, hg, heq⟩
            cases heq
            exact ⟨v, rfl, htrue, hg⟩
          · rintro ⟨_, h, _, hf⟩
            cases h
            exact ⟨f, hf, rfl⟩

/-- The templates cannot be read as entries, or a role has a name that is no text. -/
inductive TemplatesFault (es : Entries) : Fault → Prop where
  /-- The value. -/
  | value {v f} (h : es.get? "templates" = some v) (htrue : v.isTrue = true)
      (hentries : v.asEntries = .error f) : TemplatesFault es f
  /-- A role. -/
  | role {given : Entries} (h : optionalEntries (es.get? "templates") = .ok given)
      (htexts : given.hasTexts = false) : TemplatesFault es .wrongKind

/-- **Templates end in a fault exactly if they are no entries or a name is no text.** -/
theorem readTemplates_fault : readTemplates es = .error (.fault f) ↔ TemplatesFault es f := by
  have hkeys : ∀ given : Entries,
      (defaultTemplates.update given).hasTexts = given.hasTexts := by
    intro given
    rw [hasTexts_update]
    rfl
  unfold readTemplates
  rw [except_bind_eq_error, optionalEntries_fault]
  constructor
  · rintro (⟨v, hv, htrue, hf⟩ | ⟨given, hgiven, h⟩)
    · exact .value hv htrue hf
    · dsimp only at h
      rw [except_bind_eq_error, refuseUnknown_fault, hkeys] at h
      rcases h with ⟨rfl, htexts⟩ | ⟨_, _, h⟩
      · exact .role hgiven htexts
      · cases h
  · intro h
    cases h with
    | value hv htrue hf => exact .inl ⟨_, hv, htrue, hf⟩
    | role hgiven htexts =>
        refine .inr ⟨_, hgiven, ?_⟩
        dsimp only
        rw [except_bind_eq_error, refuseUnknown_fault, hkeys]
        exact .inl ⟨rfl, htexts⟩

/-- There are entries to be written over custom entries that cannot be read as entries. -/
structure CustomFault (es : Entries) (f : Fault) : Prop where
  others : es.besides fieldNames ≠ []
  value : ∃ v, es.get? "custom" = some v ∧ v.isTrue = true ∧ v.asEntries = .error f

/-- **Custom entries end in a fault exactly if other entries meet a value that is no entries.** -/
theorem readCustom_fault : readCustom es = .error (.fault f) ↔ CustomFault es f := by
  rw [readCustom_eq]
  by_cases hothers : (es.besides fieldNames).isEmpty = true
  · rw [if_pos hothers]
    constructor
    · intro h
      cases h
    · intro h
      exact absurd (List.isEmpty_iff.mp hothers) h.others
  · rw [if_neg hothers]
    have hne : es.besides fieldNames ≠ [] := fun h => hothers (List.isEmpty_iff.mpr h)
    have hmap : ∀ {x : Except Failure Entries} {g : Entries → Data},
        x.map g = .error (.fault f) ↔ x = .error (.fault f) := by
      intro x g
      cases x with
      | error e => exact ⟨fun h => by cases h; rfl, fun h => by cases h; rfl⟩
      | ok v => exact ⟨fun h => (by cases h), fun h => (by cases h)⟩
    rw [hmap, optionalEntries_fault]
    exact ⟨fun h => ⟨hne, h⟩, fun h => h.value⟩

/-! ## 3. All of them -/

/-- A section ends in a fault, and those before it were read. -/
inductive EntriesFault (es : Entries) : Fault → Prop where
  /-- The naming policies. -/
  | naming (h : NamingFault es) : EntriesFault es .wrongKind
  /-- The templates. -/
  | templates {f naming} (hnaming : readNaming es = .ok naming) (h : TemplatesFault es f) :
      EntriesFault es f
  /-- The custom entries. -/
  | custom {f naming templates} (hnaming : readNaming es = .ok naming)
      (htemplates : readTemplates es = .ok templates) (h : CustomFault es f) : EntriesFault es f

/-- **Reading settings ends in a fault exactly if a section does.** -/
theorem ofEntries_fault : ofEntries es = .error (.fault f) ↔ EntriesFault es f := by
  unfold ofEntries
  rw [except_bind_eq_error, readNaming_fault]
  constructor
  · rintro (⟨rfl, h⟩ | ⟨naming, hnaming, h⟩)
    · exact .naming h
    · rw [except_bind_eq_error, readTemplates_fault] at h
      rcases h with h | ⟨templates, htemplates, h⟩
      · exact .templates hnaming h
      · rw [except_bind_eq_error, readCustom_fault] at h
        rcases h with h | ⟨_, _, h⟩
        · exact .custom hnaming htemplates h
        · cases h
  · intro h
    cases h with
    | naming h => exact .inl ⟨rfl, h⟩
    | templates hnaming h =>
        refine .inr ⟨_, hnaming, ?_⟩
        rw [except_bind_eq_error]
        exact .inl (readTemplates_fault.mpr h)
    | custom hnaming htemplates h =>
        refine .inr ⟨_, hnaming, ?_⟩
        rw [except_bind_eq_error]
        refine .inr ⟨_, htemplates, ?_⟩
        rw [except_bind_eq_error]
        exact .inl (readCustom_fault.mpr h)

/-- The set that is asked for is no key or no text can be made of it, or a section ends in a fault. -/
inductive ResolveFault (overrides file : Entries) (asked : Option String) : Fault → Prop where
  /-- The set is no key. -/
  | key (h : (chosenSet overrides file asked).hashable = false) :
      ResolveFault overrides file asked .wrongKind
  /-- The set is no text and has none. -/
  | text (hkey : (chosenSet overrides file asked).hashable = true)
      (hnot : (chosenSet overrides file asked).text? = none)
      (h : (chosenSet overrides file asked).hasText = false) :
      ResolveFault overrides file asked .badValue
  /-- A section. -/
  | entries {set f} (hset : set ∈ templateSets)
      (hchosen : chosenSet overrides file asked = .text set)
      (h : EntriesFault (mergedLayers set overrides file) f) : ResolveFault overrides file asked f

theorem asText_fault {v : Data} :
    v.asText.mapError Failure.fault = .error (.fault f) ↔ f = .badValue ∧ v.hasText = false := by
  unfold asText
  cases v.hasText with
  | true => exact iff_of_false (fun h => by cases h) fun h => by cases h.2
  | false =>
      constructor
      · intro h
        cases h
        exact ⟨rfl, rfl⟩
      · rintro ⟨rfl, _⟩
        rfl

/-- **Resolving ends in a fault exactly if the set or a section does.** -/
theorem resolve_fault {overrides file : Entries} {asked : Option String} :
    resolve overrides file asked = .error (.fault f) ↔ ResolveFault overrides file asked f := by
  constructor
  · intro h
    unfold resolve at h
    dsimp only at h
    split at h
    · rename_i hkey
      cases h
      exact .key (Bool.not_eq_true' _ ▸ hkey)
    · rename_i hkey
      have hkey : (chosenSet overrides file asked).hashable = true := by simpa using hkey
      split at h
      · rename_i set hchosen
        split at h
        · rename_i hset
          rw [hchosen] at h
          exact .entries (List.contains_iff_mem.mp hset) hchosen (ofEntries_fault.mp h)
        · cases h
      · rename_i hnot
        rcases except_bind_eq_error.mp h with h | ⟨_, _, h⟩
        · obtain ⟨rfl, htext⟩ := asText_fault.mp h
          refine .text hkey ?_ htext
          cases hset : chosenSet overrides file asked with
          | text s => exact absurd hset (hnot s)
          | _ => rfl
        · cases h
  · intro h
    cases h with
    | key h =>
        unfold resolve
        dsimp only
        rw [h]
        rfl
    | text hkey hnot h =>
        unfold resolve
        dsimp only
        rw [hkey]
        generalize chosenSet overrides file asked = set at hnot h
        cases set with
        | text s => cases hnot
        | _ =>
            dsimp only
            rw [if_neg (by decide), asText_fault.mpr ⟨rfl, h⟩]
            rfl
    | entries hset hchosen h =>
        rw [resolve_of_chosen hset hchosen]
        exact ofEntries_fault.mpr h

/-! ## 4. No other failures -/

theorem failsAs_refuseUnknown (es : Entries) (known : List String)
    (problem : List String → ConfigError) :
    FailsAs Failure.IsOfSettings (refuseUnknown es known problem) := by
  unfold refuseUnknown
  dsimp only
  split
  · exact .ok _
  · split
    · exact .error (isOfSettings_config _)
    · exact .error (isOfSettings_fault _)

theorem failsAs_ofData (role : String) (data : Data) :
    FailsAs Failure.IsOfSettings (ofData role data) := by
  have hoption : ∀ es name, FailsAs Failure.IsOfSettings (textOption role es name) := by
    intro es name
    unfold textOption
    split
    · exact .ok _
    · exact .error (isOfSettings_config _)
  unfold ofData
  split
  · refine .bind (failsAs_refuseUnknown _ _ _) fun _ => ?_
    dsimp only
    split
    · exact .error (isOfSettings_config _)
    · refine .bind (hoption _ _) fun _ => .bind (hoption _ _) fun _ =>
        .bind (hoption _ _) fun _ => ?_
      split
      · exact .ok _
      · exact .ok _
      · exact .error (isOfSettings_config _)
  · exact .error (isOfSettings_config _)

theorem failsAs_optionalEntries (x : Option Data) :
    FailsAs Failure.IsOfSettings (optionalEntries x) := by
  unfold optionalEntries
  split
  · exact .ok _
  · split
    · exact .mapError isOfSettings_fault
    · exact .ok _

theorem failsAs_ofEntries (es : Entries) : FailsAs Failure.IsOfSettings (ofEntries es) := by
  have hnaming : FailsAs Failure.IsOfSettings (readNaming es) := by
    unfold readNaming
    split
    · exact .ok _
    · exact .bind (failsAs_refuseUnknown _ _ _) fun _ =>
        .mapM (fun e => .bind (failsAs_ofData _ _) fun _ => .ok _) _
    · exact .error (isOfSettings_config _)
  have htemplates : FailsAs Failure.IsOfSettings (readTemplates es) :=
    .bind (failsAs_optionalEntries _) fun _ => .bind (failsAs_refuseUnknown _ _ _) fun _ => .ok _
  have hcustom : FailsAs Failure.IsOfSettings (readCustom es) := by
    rw [readCustom_eq]
    split
    · exact .ok _
    · exact (failsAs_optionalEntries _).map _
  exact .bind hnaming fun _ => .bind htemplates fun _ => .bind hcustom fun _ => .ok _

/-- **Resolving fails with a configuration error or a fault.** -/
theorem failsAs_resolve (overrides file : Entries) (asked : Option String) :
    FailsAs Failure.IsOfSettings (resolve overrides file asked) := by
  unfold resolve
  dsimp only
  split
  · exact .error (isOfSettings_fault _)
  · split
    · split
      · exact failsAs_ofEntries _
      · exact .error (isOfSettings_config _)
    · exact .bind (.mapError isOfSettings_fault) fun _ => .error (isOfSettings_config _)

end Config

end DomainGen
