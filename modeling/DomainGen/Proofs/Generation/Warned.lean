import DomainGen.Proofs.Config.Resolution
import DomainGen.Proofs.Generation.Listing
import DomainGen.Proofs.Generation.Renaming

/-!
# Warnings that come true

A warning about two indexes with one path foresees what every walk does that has both of them to
write: it fails, on the second of the two if nothing has failed before. It does not matter what else
the model holds, what renders its files and where they go.

* `Generator.Clashing` : the indexes of two kinds, or that of a kind and that of the kinds, have one
  path; `indexClash_iff`, `clashing_of_sharesFolder` : **what the warnings say**;
* `Generator.Clashing.fails` : no walk over a model with the entities of a clash succeeds;
* `generate_warned` : **a warning about indexes is never a false alarm.**
-/

namespace DomainGen

/-! ## 1. Generators and configurations -/

namespace Generator

/-- The options of a kind are those of its policy. -/
theorem optionsOf?_ofConfig {base : List String} {c : Config} {g : Generator}
    (h : ofConfig base c = .ok g) (k : Kind) :
    c.optionsOf? k.text = some (g.policyOf k).options :=
  Config.policyFor_eq_ok.mp ((ofConfig_eq_ok.mp h).2.2.2 k)

/-! ## 2. Clashes -/

variable (g : Generator)

/-- Where the index of a kind goes, if the settings give a path. -/
def kindIndexPath (kind : Kind) : Except Fault String :=
  joinParts [.text (g.kindFolder kind), g.config.subModuleName]

/-- Where the index of the kinds goes, if the settings give a path. -/
def rootIndexPath : Except Fault String := joinParts [g.config.rootModuleName]

/-- The index of a kind has the path of the index of another kind, or of that of the kinds. -/
def Clashing (k : Kind) : Option Kind → Prop
  | none => ∃ path, g.kindIndexPath k = .ok path ∧ g.rootIndexPath = .ok path
  | some k' => k ≠ k' ∧ g.kindFolder k = g.kindFolder k'

variable {g}

/-- **A kind is warned about exactly if its index has the path of the index of the kinds.** -/
theorem indexClash_iff {base : List String} {c : Config} (h : ofConfig base c = .ok g)
    {ws : List ConfigWarning} (hw : c.warnings = .ok ws) (k : Kind) :
    (∃ index, .indexClash k index ∈ ws) ↔ g.Clashing k none := by
  obtain ⟨others, folders, root, clashes, hothers, hfolders, hroot, hclashes, _, rfl⟩ :=
    Config.warnings_eq_ok hw
  have hopt := optionsOf?_ofConfig h k
  obtain rfl := (ofConfig_eq_ok.mp h).1
  constructor
  · rintro ⟨index, hmem⟩
    rcases List.mem_append.mp hmem with hmem | hmem
    · rcases List.mem_append.mp hmem with hmem | hmem
      · cases hothers _ hmem
      · obtain ⟨_, _, _, _, _, heq, _⟩ := Config.mem_folderWarnings .all hfolders _ hmem
        cases heq
    · obtain ⟨k', _, o, ho, hpath, heq⟩ := (Config.mem_indexWarnings hclashes).mp hmem
      cases heq
      obtain rfl := Option.some.inj (ho.symm.trans hopt)
      exact ⟨root, hpath, hroot⟩
  · rintro ⟨path, hindex, hrootIndex⟩
    obtain rfl : root = path := Except.ok.inj (hroot.symm.trans hrootIndex)
    exact ⟨root, List.mem_append_right _ ((Config.mem_indexWarnings hclashes).mpr
      ⟨k, k.mem_all, _, hopt, hindex, rfl⟩)⟩

/-- Two kinds that are warned about have one folder. -/
theorem clashing_of_sharesFolder {base : List String} {c : Config} (h : ofConfig base c = .ok g)
    {ws : List ConfigWarning} (hw : c.warnings = .ok ws) {k first : Kind} {folder : String}
    (hmem : .sharesFolder k first folder ∈ ws) : g.Clashing k (some first) := by
  obtain ⟨others, folders, root, clashes, hothers, hfolders, _, hclashes, _, rfl⟩ :=
    Config.warnings_eq_ok hw
  rcases List.mem_append.mp hmem with hmem | hmem
  · rcases List.mem_append.mp hmem with hmem | hmem
    · cases hothers _ hmem
    · obtain ⟨k', first', folder', o, o', heq, hne, ho, ho', hsame⟩ :=
        Config.mem_folderWarnings .all hfolders _ hmem
      cases heq
      obtain rfl := Option.some.inj (ho.symm.trans (optionsOf?_ofConfig h k))
      obtain rfl := Option.some.inj (ho'.symm.trans (optionsOf?_ofConfig h first))
      exact ⟨hne, (Data.text.inj (Data.sameKey_text_iff.mp hsame)).symm⟩
  · obtain ⟨_, _, _, _, _, heq⟩ := (Config.mem_indexWarnings hclashes).mp hmem
    cases heq

/-! ## 3. Walks that write both indexes -/

section Walks

variable {ρ σ : Type} {render : Renderer ρ} {sink : Sink σ} {m : Model} {k : Kind}
  {other : Option Kind}

theorem path_kindIndexSlot (g : Generator) (kind : Kind) :
    (g.kindIndexSlot kind).2.1 = (g.kindIndexPath kind).mapError Failure.fault := rfl

/-- Two files of a model with the entities of a clash have one path. -/
theorem Clashing.not_nodup (h : g.Clashing k other) (hk : k ∈ m.populatedKinds)
    (ho : ∀ k' ∈ other, k' ∈ m.populatedKinds) : ¬ ((g.layout m).map (·.2.1)).Nodup := by
  intro hn
  unfold layout at hn
  rw [List.map_append, List.nodup_append, List.map_append, List.map_map] at hn
  obtain ⟨hkinds, _, hroot⟩ := hn
  cases other with
  | some k' =>
      have hinj := List.inj_on_of_nodup_map (hkinds.sublist (List.sublist_append_right _ _))
      refine h.1 (hinj hk (ho k' rfl) ?_)
      show (g.kindIndexSlot k).2.1 = (g.kindIndexSlot k').2.1
      rw [path_kindIndexSlot, path_kindIndexSlot]
      unfold kindIndexPath
      rw [h.2]
  | none =>
      obtain ⟨path, hindex, hrootIndex⟩ := h
      have hslot : Except.ok path ∈ (g.rootIndexSlots m).map (·.2.1) := by
        have hhas := g.hasRootIndex_of_populated (List.ne_nil_of_mem hk)
        refine List.mem_map.mpr ⟨_, g.mem_rootIndexSlots.mpr ⟨hhas, rfl⟩, ?_⟩
        unfold rootIndexPath at hrootIndex
        rw [hrootIndex]
        rfl
      refine hroot _ (List.mem_append_right _ (List.mem_map_of_mem hk)) _ hslot ?_
      show (g.kindIndexSlot k).2.1 = _
      rw [path_kindIndexSlot, hindex]
      rfl

/-- **No walk succeeds over a model with the entities of a clash**, be it the first over the model or
    a later one. -/
theorem Clashing.fails (h : g.Clashing k other) {document : Data} {source : Option String}
    {m₀ : Model} (hm₀ : Model.ofDocument document source = .ok m₀) (hm : m₀.Later m)
    (hk : 0 < m.count (some k)) (ho : ∀ k' ∈ other, 0 < m.count (some k'))
    (render : Renderer ρ) (sink : Sink σ) (e : ρ) (s : σ) :
    ∃ problem, (g.generate render sink m e s).outcome = .error problem := by
  rcases hm.fresh_or_named (fresh_ofDocument hm₀) with hf | ⟨a, rest, x, ha, hx⟩
  · cases hgen : (g.generate render sink m e s).outcome with
    | error problem => exact ⟨problem, rfl⟩
    | ok gen =>
        obtain ⟨placed, _, hslots, hn, _⟩ := generate_placed g hf hgen
        refine absurd (hslots ▸ nodup_slots_iff.mpr hn) (h.not_nodup ?_ fun k' hk' => ?_)
        · exact hf.mem_populatedKinds.mpr hk
        · exact hf.mem_populatedKinds.mpr (ho k' hk')
  · rw [g.generate_named render sink ha hx e s]
    exact ⟨_, rfl⟩

end Walks

end Generator

/-! ## 4. Main result -/

/-- **A warning about indexes is never a false alarm.** If a configuration with a policy for every
    role is warned about the index of a kind at the path of the index of the kinds, no walk over a
    model with entities of that kind succeeds; if it is warned about two kinds in one folder, no walk
    over a model with entities of both does. That holds for every model that was read, also if files
    were generated from it before, with anything that renders and any sink. -/
theorem generate_warned {base : List String} {c : Config} {g : Generator}
    {ws : List ConfigWarning} (hg : Generator.ofConfig base c = .ok g)
    (hw : c.warnings = .ok ws) {document : Data} {source : Option String} {m₀ m : Model}
    (hm₀ : Model.ofDocument document source = .ok m₀) (hm : m₀.Later m) {ρ σ : Type}
    (render : Renderer ρ) (sink : Sink σ) (e : ρ) (s : σ) :
    (∀ k index, .indexClash k index ∈ ws → 0 < m.count (some k) →
      ∃ problem, (g.generate render sink m e s).outcome = .error problem) ∧
    ∀ k first folder, .sharesFolder k first folder ∈ ws → 0 < m.count (some k) →
      0 < m.count (some first) →
      ∃ problem, (g.generate render sink m e s).outcome = .error problem := by
  constructor
  · intro k index hmem hk
    have hclash := (Generator.indexClash_iff hg hw k).mp ⟨index, hmem⟩
    exact hclash.fails hm₀ hm hk (fun _ h => by cases h) render sink e s
  · intro k first folder hmem hk hfirst
    have hclash := Generator.clashing_of_sharesFolder hg hw hmem
    refine hclash.fails hm₀ hm hk (fun k' h => ?_) render sink e s
    obtain rfl := Option.some.inj h
    exact hfirst

/-! ## 5. A folder for everything -/

/-- The standard policies, but events share the folder of commands. -/
def crowdedNaming : List (Data × PolicyOptions) := [
  (.text "aggregate", (defaultPolicy ".js" none).options),
  (.text "command", (defaultPolicy ".js" (some .command)).options),
  (.text "event", (NamingPolicy.mk ".js" "commands" "Event" false).options),
  (.text "fault", (defaultPolicy ".js" (some .fault)).options)]

/-- A configuration in which the indexes of commands, events and kinds have one path. -/
def crowdedConfig : Config :=
  { Config.standard with naming := crowdedNaming, rootModuleName := .text "commands/index.js" }

/-- The generator of the configuration. -/
def crowdedGenerator : Generator where
  config := crowdedConfig
  workingFolder := []
  aggregate := defaultPolicy ".js" none
  command := defaultPolicy ".js" (some .command)
  event := ⟨".js", "commands", "Event", false⟩
  fault := defaultPolicy ".js" (some .fault)

/-- The warnings about the configuration. -/
def crowdedWarnings : List ConfigWarning := [.sharesFolder .event .command "commands",
  .indexClash .command "commands/index.js", .indexClash .event "commands/index.js"]

/-- A model with a command and an event, under a configuration that is warned about both of them. -/
theorem generate_warned_orders : Generator.ofConfig [] crowdedConfig = .ok crowdedGenerator ∧
    crowdedConfig.warnings = .ok crowdedWarnings ∧ 0 < orders.count (some .event) ∧
    0 < orders.count (some .command) ∧
    ∃ problem, (crowdedGenerator.generate countingRenderer memorySink orders 0 []).outcome =
      .error problem := by
  have hg : Generator.ofConfig [] crowdedConfig = .ok crowdedGenerator := rfl
  have hw : crowdedConfig.warnings = .ok crowdedWarnings := eq_ok_of_toOption (by decide +kernel)
  have hevent : 0 < orders.count (some .event) := by decide
  have hcommand : 0 < orders.count (some .command) := by decide
  obtain ⟨_, hfolder⟩ :=
    generate_warned hg hw ofDocument_orders .now countingRenderer memorySink 0 []
  exact ⟨hg, hw, hevent, hcommand, hfolder .event .command "commands" List.mem_cons_self hevent
    hcommand⟩

end DomainGen
