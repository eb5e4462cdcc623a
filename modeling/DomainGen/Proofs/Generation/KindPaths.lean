import DomainGen.Config.Resolution
import DomainGen.Proofs.Generation.Imports
import DomainGen.Proofs.Generation.Specifiers
import DomainGen.Proofs.Path.Cutting
import DomainGen.Proofs.Path.Ways
import DomainGen.Proofs.Template.BuiltinText

/-!
# The folders of the kinds

The index of the kinds names each kind that has entities and the folder of the kind. Its templates are
those of indexes of files, so they cut the name of the folder off at its last dot.

The template of an aggregate is given a way to the folder of every kind, and puts a slash and the name
of a file behind it. The ways lead where they should. They are imports of files and not of packages
only as long as none of them first enters a folder whose name begins with two dots.

* `resolve_root` : what a specifier in a file at the root leads to;
* `generate_rootIndex` : **which folders the index of the kinds leads to**, with the built-in templates;
* `dotted_folder_lost` : a folder with a dot in its name, which it does not lead to;
* `Generator.RelativeFolders`, `mem_kindPaths` : the folders, and the ways that are given;
* `kindPaths_lead` : **every way leads from the folder of the aggregates to that of its kind**;
* `kindPaths_explicit_iff` : **which ways and which specifiers begin with a dot or two**;
* `dotDot_kindPath` : a folder of events that is imported like a package.
-/

namespace DomainGen

open DomainGen.Path Template

/-! ## 1. Files at the root -/

/-- A specifier in a file at the root is read as it stands. -/
theorem resolve_root {name specifier : String} (hname : IsName name)
    (h : (ofString specifier).root = .relative) :
    resolve (joinPath [name]) specifier = normalText specifier := by
  have hpath : ofString specifier = ⟨.relative, (ofString specifier).components⟩ :=
    congrArg (Path.mk · _) h
  have hroot : (ofString "").root = .relative := by decide
  have hnone : (ofString "").components = [] := by decide
  have hresolved := resolve_eq hroot hname hpath
  rw [hnone, List.nil_append, ← hpath] at hresolved
  exact hresolved

/-- Where the index of the kinds goes. -/
theorem path_rootIndexFile {g : Generator} {s : String} (hindex : g.config.rootModuleName = .text s)
    (hs : IsName s) (collections : List Collection) :
    (g.rootIndexFile collections).path = .ok (joinPath [s]) := by
  unfold Generator.rootIndexFile joinParts
  dsimp only
  rw [hindex, List.filter_cons_of_pos (isTrue_of_isName hs)]
  rfl

/-- **An index template names each kind and its folder.** -/
theorem render_rootIndex {g : Generator} {t : Template} {w : IndexWords} (hparts : t.parts = w.parts)
    (ht : t.escaping = false) (kinds : List Kind) : t.render (g.rootIndexContext kinds) =
      .ok (w.text (kinds.map fun kind => (kind.text, g.kindFolder kind))) := by
  refine render_index hparts ht rfl rfl ?_
  rw [List.forall₂_map_left_iff, List.forall₂_map_right_iff, List.forall₂_same]
  exact fun kind _ => ⟨_, rfl, rfl, rfl⟩

/-! ## 2. The index of the kinds -/

variable {ρ σ : Type} {render : Renderer ρ} {sink : Sink σ} {m : Model}

/-- **Which folders the index of the kinds leads to.** Where kinds have entities there is an index of
    them, and the built-in templates give it a line for each of these kinds. What the line names, read
    from the root, leads to the folder of the kind, in which the index of the kind lies, exactly if the
    name of the folder survives to be cut off at its last dot. -/
theorem generate_rootIndex (g : Generator) {document : Data} {source : Option String}
    (h : Model.ofDocument document source = .ok m)
    (hfolders : ∀ kind, (ofString (g.kindFolder kind)).root = .relative) {name : String}
    (hroot : g.config.rootModuleName = .text name) (hname : IsName name) {e : ρ} {s : σ}
    {gen : Generated} (hgen : (g.generate render sink m e s).outcome = .ok gen) :
    ∃ placed : List (Item × GeneratedFile), gen.files = placed.map (·.2) ∧
      (m.populatedKinds ≠ [] → ∃ index, (.rootIndex, index) ∈ placed) ∧
      ∀ (i : Nat) (index : GeneratedFile), placed[i]? = some (.rootIndex, index) →
        ∃ call, (g.calls render sink m e s)[i]? = some call ∧
          g.config.templateFor rootModuleRole = .ok call.template ∧
          Renders render call index.content ∧
          (∀ templates ∈ Builtin.sources.map (·.2),
            ∃ text t, ∃ w ∈ [plainIndexWords, typedIndexWords],
              templates.lookup "module.j2" = some text ∧
              Template.ofSource (some "module.j2") (Engine.escapes "module.j2") text = .ok t ∧
              t.render call.context = .ok
                (w.text (m.populatedKinds.map fun kind => (kind.text, g.kindFolder kind)))) ∧
          ∀ kind ∈ m.populatedKinds, ∃ kindIndex, (.kindIndex kind, kindIndex) ∈ placed ∧
            (∀ s, g.config.subModuleName = .text s → IsName s →
              (ofString kindIndex.path).parent = ofString (g.kindFolder kind)) ∧
            (resolve index.path (specifierOf (g.kindFolder kind)) = normalText (g.kindFolder kind) ↔
              SameWhenCut (g.kindFolder kind)) := by
  have hf := fresh_ofDocument h
  obtain ⟨placed, hfiles, hslots, _, hrendered⟩ := generate_rendered g hf hgen
  refine ⟨placed, hfiles, fun hsome => ?_, fun i index hi => ?_⟩
  · obtain ⟨index, hindex, _⟩ := exists_placed hslots (g.rootIndexSlot_mem_layout hsome)
    exact ⟨index, hindex⟩
  · obtain ⟨f, hplanned, hitem, hpath, call, hcall, htemplate, hcontext, hcontent⟩ :=
      hrendered i _ index hi
    rw [eq_rootIndexFile hplanned hitem] at hpath htemplate hcontext
    rw [path_rootIndexFile hroot hname] at hpath
    have hfrom : joinPath [name] = index.path := Except.ok.inj hpath
    have hgiven : call.context = g.rootIndexContext m.populatedKinds :=
      hcontext.symm.trans context_rootIndex
    refine ⟨call, hcall, htemplate, hcontent, fun templates htemplates => ?_, fun kind hkind => ?_⟩
    · obtain ⟨text, t, w, hw, htext, ht, hparts, hescaping⟩ := exists_indexTemplate htemplates
      refine ⟨text, t, w, hw, htext, ht, ?_⟩
      rw [hgiven]
      exact render_rootIndex hparts hescaping m.populatedKinds
    · obtain ⟨kindIndex, hplaced, hto⟩ := exists_placed hslots (g.kindIndexSlot_mem_layout hkind)
      refine ⟨kindIndex, hplaced, fun s hindex hs => ?_, ?_⟩
      · have hjoined := joinParts_index (g.kindFolder kind) hs
        have hto : (joinParts [.text (g.kindFolder kind), g.config.subModuleName]).mapError
            Failure.fault = .ok kindIndex.path := hto
        rw [hindex, hjoined] at hto
        have hin : joinPath [g.kindFolder kind, s] = kindIndex.path := Except.ok.inj hto
        rw [← hin, parent_joinPath (hfolders kind) hs]
        exact (congrArg (Path.mk · _) (hfolders kind)).symm
      · rw [← hfrom, specifierOf, resolve_root hname (congrArg Path.root (ofString_dot _))]
        exact normalText_cut_iff (hfolders kind)

theorem generate_rootIndex_orders : ∃ (gen : Generated) (placed : List (Item × GeneratedFile))
    (index : GeneratedFile),
    (plainGenerator.generate countingRenderer memorySink orders 0 []).outcome = .ok gen ∧
      gen.files = placed.map (·.2) ∧ (.rootIndex, index) ∈ placed ∧
      resolve index.path (specifierOf "events") = normalText "events" := by
  obtain ⟨gen, hgen⟩ : ∃ gen, (plainGenerator.generate countingRenderer memorySink orders 0
      []).outcome = .ok gen := exists_ok_of_isSome (by decide +kernel)
  have hfolders : ∀ kind, (ofString (plainGenerator.kindFolder kind)).root = .relative := by
    intro kind
    cases kind <;> decide +kernel
  have hname : IsName "index.js" := ⟨by decide, by decide, by decide⟩
  obtain ⟨placed, hfiles, hindex, hall⟩ :=
    generate_rootIndex plainGenerator ofDocument_orders hfolders rfl hname hgen
  obtain ⟨index, hmem⟩ := hindex (by decide)
  obtain ⟨i, hi⟩ := List.getElem?_of_mem hmem
  obtain ⟨_, _, _, _, _, hkinds⟩ := hall i index hi
  obtain ⟨_, _, _, hleads⟩ := hkinds .event (by decide)
  exact ⟨gen, placed, index, hgen, hfiles, hmem, hleads.mpr (.plain (by decide))⟩

/-- A generator whose folder for events has a dot in its name. -/
def dottedGenerator : Generator := { plainGenerator with event := ⟨".js", "my.events", "", false⟩ }

theorem dotted_folder_lost : ∃ (gen : Generated) (t : Template),
    (dottedGenerator.generate countingRenderer memorySink orders 0 []).outcome = .ok gen ∧
      gen.files.map (·.path) = ["aggregates/order.js", "my.events/placed.js",
        "aggregates/invoice.js", "commands/send.js", "my.events/index.js", "commands/index.js",
        "index.js"] ∧
      Template.ofSource (some "module.j2") false Builtin.typedIndex = .ok t ∧
      t.render (dottedGenerator.rootIndexContext orders.populatedKinds) = .ok
        "export * as event from './my';\nexport * as command from './commands';\n" ∧
      resolve "index.js" "./my" ≠ normalText (dottedGenerator.kindFolder .event) := by
  have hok : (dottedGenerator.generate countingRenderer memorySink orders 0 []).outcome.toOption.map
      (·.files.map (·.path)) = some ["aggregates/order.js", "my.events/placed.js",
        "aggregates/invoice.js", "commands/send.js", "my.events/index.js", "commands/index.js",
        "index.js"] := by decide +kernel
  have htext : typedIndexWords.text (orders.populatedKinds.map fun kind =>
      (kind.text, dottedGenerator.kindFolder kind)) =
        "export * as event from './my';\nexport * as command from './commands';\n" := by
    decide +kernel
  cases hgen : (dottedGenerator.generate countingRenderer memorySink orders 0 []).outcome with
  | error problem =>
      rw [hgen] at hok
      cases hok
  | ok gen =>
      rw [hgen] at hok
      refine ⟨gen, _, rfl, Option.some.inj hok, ofSource_index segments_typedIndex _ _, ?_, ?_⟩
      · exact (render_rootIndex rfl rfl orders.populatedKinds).trans (congrArg Except.ok htext)
      · decide +kernel

end DomainGen

namespace DomainGen

open DomainGen.Path Template

/-! ## 3. The ways of a generator -/

/-- The folders of a generator are relative and do not climb. -/
structure Generator.RelativeFolders (g : Generator) : Prop where
  aggregate : (ofString g.aggregate.folder).StaysBelow
  kinds : ∀ kind, (ofString (g.kindFolder kind)).StaysBelow

/-- The ways that templates are given are those to the kinds, each under the name of its kind. -/
theorem mem_kindPaths {g : Generator} {entry : Data × Data} :
    entry ∈ g.kindPaths ↔ ∃ kind : Kind, entry = (.text kind.text, .text (g.kindPath kind)) := by
  unfold Generator.kindPaths Entries.ofFields
  rw [List.map_map, List.mem_map]
  constructor
  · rintro ⟨kind, _, rfl⟩
    exact ⟨kind, rfl⟩
  · rintro ⟨kind, rfl⟩
    exact ⟨kind, kind.mem_all, rfl⟩

/-! ## 4. Where the ways lead -/

/-- **A way leads from one folder to another**: read behind the folder it begins in, it is the folder
    it leads to; it is a dot exactly if the two are one folder; and no double dot stands behind
    anything but dots. So every way that templates are given leads from the folder of the aggregates
    to that of its kind. -/
theorem kindPaths_lead :
    (∀ (base : List String) (start target : String), (ofString start).StaysBelow →
      (ofString target).StaysBelow → WayTo start target (relativeFolder base start target)) ∧
    ∀ g : Generator, g.RelativeFolders → ∀ entry ∈ g.kindPaths, ∃ (kind : Kind) (way : String),
      entry = (.text kind.text, .text way) ∧ WayTo g.aggregate.folder (g.kindFolder kind) way := by
  refine ⟨fun base start target => wayTo_relativeFolder base, fun g hg entry hentry => ?_⟩
  obtain ⟨kind, rfl⟩ := mem_kindPaths.mp hentry
  exact ⟨kind, _, rfl, wayTo_relativeFolder g.workingFolder hg.aggregate (hg.kinds kind)⟩

theorem relativeFolders_importableGenerator : importableGenerator.RelativeFolders :=
  ⟨importable_importableGenerator.aggregate.below,
    fun kind => (importable_importableGenerator.kinds kind).below⟩

/-- Folders in unusual spellings, and a generator with folders of different depths, one of them
    empty. -/
theorem kindPaths_lead_spelled :
    normalText ("domain/./aggregates//" ++ "/" ++ "../../shared/events") =
      normalText "shared/x/../events" ∧
    relativeFolder ["home"] "" "./" = "." ∧
    WayTo "domain/aggregates" "" "../.." := by
  obtain ⟨hways, hkinds⟩ := kindPaths_lead
  have hlead := hways ["home"] "domain/./aggregates//" "shared/x/../events" (by decide +kernel)
    (by decide +kernel)
  have hstay := hways ["home"] "" "./" (by decide +kernel) (by decide +kernel)
  have hway : relativeFolder ["home"] "domain/./aggregates//" "shared/x/../events" =
      "../../shared/events" := by decide +kernel
  rw [hway] at hlead
  have hfault : (Data.text "fault", Data.text (importableGenerator.kindPath .fault)) ∈
      importableGenerator.kindPaths := mem_kindPaths.mpr ⟨.fault, rfl⟩
  obtain ⟨kind, way, hentry, hto⟩ :=
    hkinds importableGenerator relativeFolders_importableGenerator _ hfault
  obtain ⟨hkind, hpath⟩ := Prod.mk.inj hentry
  have hspelled : importableGenerator.kindPath .fault = "../.." := by decide +kernel
  have hname : kind = .fault := by
    cases kind <;> first | rfl | exact absurd (Data.text.inj hkind) (by decide)
  subst hname
  rw [← Data.text.inj hpath, hspelled] at hto
  exact ⟨hlead.leads, hstay.stays.mpr (by decide +kernel), hto⟩

/-! ## 5. Folders that begin with two dots -/

/-- Settings that put aggregates into a folder and events into one with two dots in front below
    it. -/
def dotDotOverrides : Entries := [(.text "naming", .mapping [
  (.text "aggregate", .mapping [(.text "folder", .text "domain")]),
  (.text "event", .mapping [(.text "folder", .text "domain/..events")])])]

/-- The standard policies with these folders. -/
def dotDotNaming : List (Data × PolicyOptions) := [
  (.text "aggregate", (NamingPolicy.mk ".js" "domain" "Aggregate" false).options),
  (.text "command", (defaultPolicy ".js" (some .command)).options),
  (.text "event", (NamingPolicy.mk ".js" "domain/..events" "Event" false).options),
  (.text "fault", (defaultPolicy ".js" (some .fault)).options)]

/-- The configuration with these settings. -/
def dotDotConfig : Config := { Config.standard with naming := dotDotNaming }

/-- The generator of the configuration. -/
def dotDotGenerator : Generator where
  config := dotDotConfig
  workingFolder := []
  aggregate := ⟨".js", "domain", "Aggregate", false⟩
  command := defaultPolicy ".js" (some .command)
  event := ⟨".js", "domain/..events", "Event", false⟩
  fault := defaultPolicy ".js" (some .fault)

theorem resolve_dotDot : Config.resolve dotDotOverrides [] none = .ok dotDotConfig := rfl

theorem ofConfig_dotDot : Generator.ofConfig [] dotDotConfig = .ok dotDotGenerator := rfl

theorem relativeFolders_dotDot : dotDotGenerator.RelativeFolders := by
  refine ⟨by decide +kernel, fun kind => ?_⟩
  cases kind with
  | command => decide +kernel
  | event => decide +kernel
  | fault => decide +kernel

/-- An event of an order. -/
def placedEvent : Entity := ⟨.event, "placed", "order", [], none⟩

/-- A command for an order. -/
def placeCommand : Entity := ⟨.command, "place", "order", [], none⟩

theorem kindPaths_dotDot : dotDotGenerator.kindPaths = [(.text "command", .text "../commands"),
    (.text "event", .text "..events"), (.text "fault", .text "../faults")] := by
  have hcommand : dotDotGenerator.kindPath .command = "../commands" := by decide +kernel
  have hevent : dotDotGenerator.kindPath .event = "..events" := by decide +kernel
  have hfault : dotDotGenerator.kindPath .fault = "../faults" := by decide +kernel
  rw [← hcommand, ← hevent, ← hfault]
  rfl

theorem specifier_placed : dotDotGenerator.specifier placedEvent = "..events/placed-event" := by
  decide +kernel

/-! ## 6. Specifiers -/

/-- **Which ways and which specifiers begin with a dot or two**: exactly those to a kind whose folder
    is not reached by first entering a folder whose name begins with two dots. The specifiers are what
    the built-in template of typed aggregates imports commands and events from. -/
theorem kindPaths_explicit_iff (g : Generator) (hg : g.RelativeFolders) :
    (∀ entry ∈ g.kindPaths, ∃ (kind : Kind) (way : String),
      entry = (.text kind.text, .text way) ∧
        (IsExplicit way ↔ ¬ EntersDots g.aggregate.folder (g.kindFolder kind))) ∧
    (∀ x : Entity, IsExplicit (g.specifier x) ↔
      ¬ EntersDots g.aggregate.folder (g.kindFolder x.kind)) ∧
    ∀ {document : Data} {source : Option String} {m : Model},
      Model.ofDocument document source = .ok m → ∀ a ∈ m.aggregates,
        ∃ templates source t, Builtin.sources.lookup "typescript" = some templates ∧
          templates.lookup "aggregate.j2" = some source ∧
          Template.ofSource (some "aggregate.j2") (Engine.escapes "aggregate.j2") source = .ok t ∧
          ∀ text, t.render (g.aggregateContext (.mapping (g.decorated m).context)
            (g.decoratedAggregate a)) = .ok text → ∃ rest, text = String.join
              ((a.entitiesOf .command ++ a.entitiesOf .event).map g.importOf) ++ rest := by
  have hway : ∀ kind, IsExplicit (g.kindPath kind) ↔
      ¬ EntersDots g.aggregate.folder (g.kindFolder kind) := fun kind =>
    isExplicit_relativeFolder_iff g.workingFolder hg.aggregate (hg.kinds kind)
  refine ⟨fun entry hentry => ?_, fun x => ?_, fun {document source m} hm a ha => ?_⟩
  · obtain ⟨kind, rfl⟩ := mem_kindPaths.mp hentry
    exact ⟨kind, _, rfl, hway kind⟩
  · exact (isExplicit_slash_iff _ _).trans (hway x.kind)
  · exact exists_importTemplate ((fresh_ofDocument hm).aggregates a ha)
      (g.describesAggregate_context hm ha)

/-- Of the generator with the two dots, events are imported like a package and commands are not. -/
theorem kindPaths_explicit_iff_dotDot :
    ¬ IsExplicit (dotDotGenerator.specifier placedEvent) ∧
      IsExplicit (dotDotGenerator.specifier placeCommand) := by
  obtain ⟨-, hspecifiers, -⟩ := kindPaths_explicit_iff dotDotGenerator relativeFolders_dotDot
  have hfolder : (ofString dotDotGenerator.aggregate.folder).normalize.components = ["domain"] := by
    decide +kernel
  have hevents : (ofString (dotDotGenerator.kindFolder .event)).normalize.components =
      ["domain", "..events"] := by decide +kernel
  have hcommands : (ofString (dotDotGenerator.kindFolder .command)).normalize.components =
      ["commands"] := by decide +kernel
  have henters : EntersDots dotDotGenerator.aggregate.folder
      (dotDotGenerator.kindFolder .event) := by
    refine ⟨"..events", [], ?_, by decide +kernel⟩
    rw [hevents, hfolder]
    rfl
  have hleaves : ¬ EntersDots dotDotGenerator.aggregate.folder
      (dotDotGenerator.kindFolder .command) := by
    rintro ⟨c, rest, hbelow, -⟩
    rw [hcommands, hfolder] at hbelow
    exact absurd (List.cons.inj hbelow).1 (by decide)
  exact ⟨fun h => (hspecifiers placedEvent).mp h henters,
    (hspecifiers placeCommand).mpr hleaves⟩

/-- **A way that is no import of a file**: relative folders below the working directory, and a
    specifier that begins with the name of a folder. -/
theorem dotDot_kindPath :
    Config.resolve dotDotOverrides [] none = .ok dotDotConfig ∧
      Generator.ofConfig [] dotDotConfig = .ok dotDotGenerator ∧ dotDotGenerator.RelativeFolders ∧
      dotDotGenerator.kindPaths = [(.text "command", .text "../commands"),
        (.text "event", .text "..events"), (.text "fault", .text "../faults")] ∧
      ¬ IsExplicit "..events" ∧
      dotDotGenerator.specifier placedEvent = "..events/placed-event" ∧
      ¬ IsExplicit "..events/placed-event" := by
  refine ⟨resolve_dotDot, ofConfig_dotDot, relativeFolders_dotDot, kindPaths_dotDot, ?_,
    specifier_placed, ?_⟩
  · decide +kernel
  · decide +kernel

end DomainGen
