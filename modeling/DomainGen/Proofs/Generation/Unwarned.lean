import DomainGen.Proofs.Config.Resolution
import DomainGen.Proofs.Generation.IndexCollision
import DomainGen.Proofs.Template.Cache
import Mathlib.Data.List.Pairwise

/-!
# Collisions without a warning

A warning about the index of the kinds is given exactly if it would collide, since the paths are
compared that the walk compares. Folders of kinds are compared as texts instead, and that is less
than the walk does: under a configuration without warnings the indexes of two kinds still collide if
their folders are one folder in two spellings, or if the name of indexes is an absolute path. These
two cases are all that the warnings miss.

* `engineRenderer_noCollisions` : a template engine reports no collisions;
* `Config.Checked.renderable`, `kindFolder_ne` : what a configuration without warnings gives;
* `generate_unwarned` : **the collisions of indexes that are not foreseen**;
* `unwarned_collision` : events in `commands/` and commands in `commands`.
-/

namespace DomainGen

/-! ## 1. What renders -/

/-- Neither finding nor reading a template ends in a collision. -/
theorem Engine.compile_ne_collision (e : Engine) (tree : FileTree) (name : Data) (c : Collision) :
    (e.compile tree name).2 ≠ .error (.collision c) := by
  have hname : e.nameOf name ≠ .error (.collision c) := by
    unfold Engine.nameOf
    intro h
    repeat' split at h
    all_goals cases h
  have hload : ∀ n, e.load tree n ≠ .error (.collision c) := by
    unfold Engine.load
    intro n h
    repeat' split at h
    all_goals cases h
  rw [e.compile_result tree name]
  cases hn : e.nameOf name with
  | error f => exact fun h => hname (hn.trans (congrArg Except.error (Except.error.inj h)))
  | ok n =>
      show e.given tree n ≠ _
      unfold Engine.given
      cases e.compiled.lookup n with
      | some t => exact fun h => by cases h
      | none =>
          cases e.cached? n with
          | some found => exact fun h => by cases h
          | none =>
              cases hl : e.load tree n with
              | error f =>
                  exact fun h => hload n (hl.trans (congrArg Except.error (Except.error.inj h)))
              | ok found => exact fun h => by cases h

/-- A template engine reports no collisions. -/
theorem engineRenderer_noCollisions (tree : FileTree) : (engineRenderer tree).NoCollisions := by
  intro e template context c h
  have hread := e.compile_ne_collision tree template c
  unfold engineRenderer Engine.render at h
  rcases hc : e.compile tree template with ⟨next, f | t⟩ <;> rw [hc] at h hread
  · exact hread (congrArg Except.error (Except.error.inj h))
  · dsimp only at h
    cases ht : t.render context <;> rw [ht] at h <;> cases h

/-! ## 2. Configurations without warnings -/

section Unwarned

variable {base : List String} {c : Config} {g : Generator}

/-- A checked configuration without warnings has a generator. -/
theorem Config.Checked.exists_ofConfig (h : c.Checked) (hw : c.warnings = .ok [])
    (base : List String) : ∃ g, Generator.ofConfig base c = .ok g := by
  obtain ⟨aggregate, ha⟩ := h.policyFor hw none
  obtain ⟨command, hc⟩ := h.policyFor hw (some .command)
  obtain ⟨event, he⟩ := h.policyFor hw (some .event)
  obtain ⟨fault, hf⟩ := h.policyFor hw (some .fault)
  refine ⟨⟨c, base, aggregate, command, event, fault⟩, Generator.ofConfig_eq_ok.mpr
    ⟨rfl, rfl, ha, fun k => ?_⟩⟩
  cases k with
  | command => exact hc
  | event => exact he
  | fault => exact hf

/-- A checked configuration for which the warnings can be told has all templates and the paths of
    all indexes. -/
theorem Config.Checked.renderable (h : c.Checked) (hg : Generator.ofConfig base c = .ok g)
    {ws : List ConfigWarning} (hw : c.warnings = .ok ws) : g.Renderable := by
  obtain ⟨_, _, root, _, _, _, hroot, hclashes, _, _⟩ := Config.warnings_eq_ok hw
  have hopt := Generator.optionsOf?_ofConfig hg
  obtain rfl := (Generator.ofConfig_eq_ok.mp hg).1
  exact ⟨h.templates,
    fun k => Config.joinParts_of_indexWarnings hclashes k k.mem_all _ (hopt k), root, hroot⟩

/-- Without warnings no two kinds have one text as their folder. -/
theorem kindFolder_ne (hg : Generator.ofConfig base c = .ok g) (hw : c.warnings = .ok [])
    {k k' : Kind} (hne : k ≠ k') : g.kindFolder k ≠ g.kindFolder k' := by
  obtain ⟨others, folders, _, clashes, _, hfolders, _, _, _, heq⟩ := Config.warnings_eq_ok hw
  have hnone : folders = [] :=
    (List.append_eq_nil_iff.mp (List.append_eq_nil_iff.mp heq.symm).1).2
  subst hnone
  have hopt := Generator.optionsOf?_ofConfig hg
  have hpair : Kind.all.Pairwise fun k k' => g.kindFolder k ≠ g.kindFolder k' := by
    refine (Config.folderWarnings_nil hfolders).1.imp fun {k k'} hdiffer hsame => ?_
    have hkey := hdiffer _ _ (hopt k) (hopt k')
    have hfolder : (Data.text (g.kindFolder k)).sameKey (.text (g.kindFolder k')) = true :=
      Data.sameKey_text_iff.mpr (congrArg Data.text hsame)
    exact Bool.false_ne_true (hkey.symm.trans hfolder)
  have hsymm : Std.Symm fun k k' : Kind => g.kindFolder k ≠ g.kindFolder k' :=
    ⟨fun _ _ hdiffer => hdiffer.symm⟩
  exact hpair.forall k.mem_all k'.mem_all hne

/-- Without warnings the index of the kinds has its path for itself. -/
theorem not_clashing_root (hg : Generator.ofConfig base c = .ok g) (hw : c.warnings = .ok [])
    (k : Kind) : ¬ g.Clashing k none := fun h => by
  obtain ⟨index, hmem⟩ := (Generator.indexClash_iff hg hw k).mpr h
  exact absurd hmem List.not_mem_nil

end Unwarned

/-! ## 3. Main result -/

/-- **What the warnings about indexes miss.** A configuration that was resolved and has no warnings
    makes a generator, and no two of its kinds have one text as their folder. If a walk over a model
    that was read, with anything that renders and any sink, ends in the collision of two indexes,
    they are those of two kinds whose folders are one folder in two spellings, or whose indexes have
    an absolute path as their name; it is never the index of the kinds. And wherever there are two
    such kinds there is a model whose walk ends so, in either order of the two. -/
theorem generate_unwarned {overrides file : Entries} {asked : Option String} {c : Config}
    (hc : Config.resolve overrides file asked = .ok c) (hw : c.warnings = .ok [])
    (base : List String) :
    ∃ g, Generator.ofConfig base c = .ok g ∧
      (∀ k k', k ≠ k' → g.kindFolder k ≠ g.kindFolder k') ∧
      (∀ {document : Data} {source : Option String} {m₀ m : Model},
        Model.ofDocument document source = .ok m₀ → m₀.Later m →
        ∀ {ρ σ : Type} {render : Renderer ρ} (sink : Sink σ), render.NoCollisions →
        ∀ e s clash, (g.generate render sink m e s).outcome = .error (.collision clash) →
          clash.first.isIndex = true → clash.second.isIndex = true →
          ∃ k k', k ≠ k' ∧ g.Merging k k' ∧ g.kindIndexPath k = .ok clash.path ∧
            clash.first = .kindIndex k ∧ clash.second = .kindIndex k') ∧
      ∀ k k', k ≠ k' → g.Merging k k' →
        ∃ document m path, Model.ofDocument document none = .ok m ∧
          g.kindIndexPath k = .ok path ∧
          ∀ {ρ σ : Type} {render : Renderer ρ} {sink : Sink σ}, render.Total → sink.AcceptsAll →
            ∀ e s, (g.generate render sink m e s).outcome =
              .error (.collision ⟨path, .kindIndex k, .kindIndex k'⟩) := by
  have hchecked := Config.checked_resolve hc
  obtain ⟨g, hg⟩ := hchecked.exists_ofConfig hw base
  refine ⟨g, hg, fun k k' => kindFolder_ne hg hw, ?_,
    fun k k' => exists_collision (hchecked.renderable hg hw)⟩
  intro document source m₀ m hm₀ hm ρ σ render sink hrender e s clash ho hfirst hsecond
  rcases hm.fresh_or_named (fresh_ofDocument hm₀) with hf | ⟨a, rest, x, ha, hx⟩
  · obtain ⟨hne, hpath, hpath'⟩ := indexes_of_collision hf hrender ho hfirst hsecond
    rcases Generator.merging_of_indexes hne hpath hpath' with hkinds | ⟨k, hclash⟩
    · exact hkinds
    · exact absurd hclash (not_clashing_root hg hw k)
  · -- a model that has its names is not walked over
    rw [g.generate_named render sink ha hx e s] at ho
    cases ho

/-! ## 4. One folder in two spellings -/

/-- Settings that put events into the folder of commands, with a slash at its end. -/
def slashOverrides : Entries := [(.text "naming", .mapping [
  (.text "event", .mapping [(.text "folder", .text "commands/")])])]

/-- The standard policies, with the folder of events as it was given. -/
def slashNaming : List (Data × PolicyOptions) := [
  (.text "aggregate", (defaultPolicy ".js" none).options),
  (.text "command", (defaultPolicy ".js" (some .command)).options),
  (.text "event", (NamingPolicy.mk ".js" "commands/" "Event" false).options),
  (.text "fault", (defaultPolicy ".js" (some .fault)).options)]

/-- The configuration with these settings. -/
def slashConfig : Config := { Config.standard with naming := slashNaming }

/-- The generator of the configuration. -/
def slashGenerator : Generator where
  config := slashConfig
  workingFolder := []
  aggregate := defaultPolicy ".js" none
  command := defaultPolicy ".js" (some .command)
  event := ⟨".js", "commands/", "Event", false⟩
  fault := defaultPolicy ".js" (some .fault)

theorem resolve_slash : Config.resolve slashOverrides [] none = .ok slashConfig := rfl

theorem warnings_slash : slashConfig.warnings = .ok [] := eq_ok_of_toOption (by decide +kernel)

theorem ofConfig_slash : Generator.ofConfig [] slashConfig = .ok slashGenerator := rfl

theorem merging_slash : slashGenerator.Merging .command .event := Or.inl (by decide +kernel)

theorem countingRenderer_total : countingRenderer.Total := fun _ _ _ => ⟨_, rfl⟩

/-- Commands before events: there is a model whose walk ends with their indexes. -/
theorem generate_unwarned_slash :
    Config.resolve slashOverrides [] none = .ok slashConfig ∧ slashConfig.warnings = .ok [] ∧
      ∃ document m path, Model.ofDocument document none = .ok m ∧
        (slashGenerator.generate countingRenderer memorySink m 0 []).outcome =
          .error (.collision ⟨path, .kindIndex .command, .kindIndex .event⟩) := by
  obtain ⟨g, hg, _, _, hexists⟩ := generate_unwarned resolve_slash warnings_slash []
  obtain rfl : slashGenerator = g := Except.ok.inj (ofConfig_slash.symm.trans hg)
  obtain ⟨document, m, path, hm, _, ho⟩ := hexists .command .event (by decide) merging_slash
  exact ⟨resolve_slash, warnings_slash, document, m, path, hm,
    ho countingRenderer_total Sink.memorySink_acceptsAll 0 []⟩

/-- The files of two aggregates, one with an event and one with a command, if they could all be
    placed. -/
def slashFiles : List (Item × GeneratedFile) := [
  (.aggregate "order", ⟨"aggregates/order-aggregate.js", "0", some "OrderAggregate"⟩),
  (.entity .event "order" "placed", ⟨"commands/placed-event.js", "1", some "PlacedEvent"⟩),
  (.aggregate "invoice", ⟨"aggregates/invoice-aggregate.js", "2", some "InvoiceAggregate"⟩),
  (.entity .command "invoice" "send", ⟨"commands/send-command.js", "3", some "SendCommand"⟩),
  (.kindIndex .event, ⟨"commands/index.js", "4", none⟩),
  (.kindIndex .command, ⟨"commands/index.js", "5", none⟩),
  (.rootIndex, ⟨"index.js", "6", none⟩)]

/-- **The indexes of two kinds collide, and nothing was said about it.** -/
theorem unwarned_collision :
    Config.resolve slashOverrides [] none = .ok slashConfig ∧ slashConfig.warnings = .ok [] ∧
      Generator.ofConfig [] slashConfig = .ok slashGenerator ∧
      Model.ofDocument ordersDocument none = .ok orders ∧
      (slashGenerator.generate countingRenderer memorySink orders 0 []).outcome =
        .error (.collision ⟨"commands/index.js", .kindIndex .event, .kindIndex .command⟩) := by
  have hr : renderSteps countingRenderer 0 (slashGenerator.plan orders) = .ok slashFiles := by
    decide +kernel
  have hrepeat : FirstRepeat slashFiles
      ⟨"commands/index.js", .kindIndex .event, .kindIndex .command⟩ :=
    ⟨slashFiles.take 5, _, slashFiles.drop 6, rfl, by decide, slashFiles[4],
      by decide, rfl, rfl⟩
  exact ⟨resolve_slash, warnings_slash, ofConfig_slash, ofDocument_orders,
    (outcome_error_iff_firstRepeat Sink.memorySink_acceptsAll slashGenerator
      (fresh_ofDocument ofDocument_orders) hr [] _).mpr ⟨_, rfl, hrepeat⟩⟩

end DomainGen
