import DomainGen.Proofs.Generation.Contexts
import DomainGen.Proofs.Generation.Specifiers
import DomainGen.Proofs.Template.BuiltinText

/-!
# Imports of generated files

An index is given the files beside it, and an aggregate its commands and events with the ways to their
folders. What the template of a typed aggregate writes of them are specifiers, and they lead to the
files of these entities.

* `Generator.specifier`, `Generator.importOf` : how an aggregate imports an entity;
* `imports_of_describes` : the context of an aggregate has what its imports need;
* `generate_specifiers` : **every specifier of an index and of an aggregate leads to the file of its
  entity.**
-/

namespace DomainGen

open DomainGen.Path Template

/-! ## 1. What aggregates import -/

namespace Generator

variable (g : Generator)

/-- What an aggregate imports an entity from. -/
def specifier (x : Entity) : String :=
  g.kindPath x.kind ++ "/" ++ stripExtension (g.namesOf x).fileName

/-- The line by which an aggregate imports an entity. -/
def importOf (x : Entity) : String :=
  "import \x7b " ++ (g.namesOf x).className ++ " \x7d from '" ++ g.specifier x ++ "';\n"

/-- The class and the file of an entity. -/
def classAndFile (x : Entity) : String × String :=
  ((g.namesOf x).className, (g.namesOf x).fileName)

theorem importLine_classAndFile (x : Entity) :
    importLine (g.kindPath x.kind) (g.classAndFile x) = g.importOf x := rfl

variable {g} {m : Model} {a : Aggregate}

/-- The lines for the entities of a kind. -/
theorem importLines_entitiesOf (h : a.Fresh) (kind : Kind) :
    ((a.entitiesOf kind).map g.classAndFile).map (importLine (g.kindPath kind)) =
      (a.entitiesOf kind).map g.importOf := by
  rw [List.map_map]
  refine List.map_congr_left fun x hx => ?_
  rw [← g.importLine_classAndFile x, (h.entitiesOf hx).kind_eq]
  rfl

/-- Summaries of entities list their classes and files. -/
theorem lists_of_mapsEach {xs : List Entity} {es : Entries}
    (h : MapsEach Entity.name (fun x => g.SummarizesEntity x []) xs es) :
    List.Forall₂ (fun e y => Lists e.2 y) es (xs.map g.classAndFile) := by
  rw [List.forall₂_map_right_iff]
  refine List.Forall₂.flip (h.imp fun x e hsummary => ?_)
  obtain ⟨_, c, hc, hx⟩ := hsummary
  exact ⟨c, hc, hx.className, hx.fileName⟩

/-- **The context of an aggregate has what its imports need.** -/
theorem imports_of_describes {c : Entries} (h : g.DescribesAggregate m a c) (kind : Kind) :
    Imports c kind (g.kindPath kind) ((a.entitiesOf kind).map g.classAndFile) := by
  constructor
  · refine ⟨g.kindPaths, h.kindPaths, ?_⟩
    cases kind <;> rfl
  · unfold Aggregate.entitiesOf
    cases hfound : a.collections.lookup kind with
    | none =>
        refine ⟨[], Or.inr ⟨h.summary.undeclared kind fun hmem => ?_, rfl⟩, .nil⟩
        obtain ⟨x, hx, hkind⟩ := List.mem_map.mp hmem
        have hother := List.lookup_eq_none_iff.mp hfound x hx
        rw [hkind, bne_self_eq_false] at hother
        cases hother
    | some xs =>
        obtain ⟨summaries, hsummaries, heach⟩ :=
          h.summary.declared (kind, xs) (Aggregate.mem_collections hfound)
        exact ⟨summaries, Or.inl hsummaries, lists_of_mapsEach heach⟩

end Generator

/-! ## 2. The template of typed aggregates -/

/-- A planned file of an aggregate of a read model is rendered from the context of the aggregate. -/
theorem eq_aggregateFile {g : Generator} {m : Model} (hf : m.Fresh) {f : PlannedFile}
    (h : f ∈ g.plannedFiles m) {a : Aggregate} (ha : a ∈ m.aggregates) (hitem : f.item = a.item) :
    f = g.aggregateFile (.mapping (g.decorated m).context) a := by
  rcases Generator.mem_plannedFiles h with ⟨b, hb, rfl⟩ | ⟨x, _, _, rfl⟩ | ⟨c, _, rfl⟩ | rfl
  · have hname : b.name = a.name := Item.aggregate.inj hitem
    rw [List.inj_on_of_nodup_map hf.keys hb ha hname]
  · cases hitem
  · cases hitem
  · cases hitem

/-- **The built-in template of a typed aggregate imports its commands and its events** before anything
    else. -/
theorem exists_importTemplate {g : Generator} {m : Model} {a : Aggregate} (ha : a.Fresh)
    {c : Entries} (h : g.DescribesAggregate m a c) :
    ∃ templates source t, Builtin.sources.lookup "typescript" = some templates ∧
      templates.lookup "aggregate.j2" = some source ∧
      Template.ofSource (some "aggregate.j2") (Engine.escapes "aggregate.j2") source = .ok t ∧
      ∀ text, t.render c = .ok text → ∃ rest, text =
        String.join ((a.entitiesOf .command ++ a.entitiesOf .event).map g.importOf) ++ rest := by
  obtain ⟨t, ht⟩ := exists_typedAggregate
  refine ⟨_, Builtin.typedAggregate, t, rfl, rfl, ht, fun text htext => ?_⟩
  obtain ⟨rest, hrest⟩ := render_typedAggregate ht htext
    (Generator.imports_of_describes h .command) (Generator.imports_of_describes h .event)
  rw [Generator.importLines_entitiesOf ha, Generator.importLines_entitiesOf ha] at hrest
  refine ⟨rest, ?_⟩
  rw [hrest, List.map_append, String.join_append, String.append_assoc]

/-! ## 3. Main result -/

variable {ρ σ : Type} {render : Renderer ρ} {sink : Sink σ} {m : Model}

/-- **The specifiers of indexes and aggregates lead to the files of the entities.** What the template
    of the index of a kind is given lists the entities of the kind by file names; each of them, without
    its extension and read from the folder of the index, is the path of the file of the entity without
    its extension. The built-in template of typed aggregates, given what the file of an aggregate is
    rendered from, imports the commands and the events of the aggregate by their specifiers, and a
    specifier, read from the folder of the aggregate, leads to the file of the entity in the same
    way. -/
theorem generate_specifiers (g : Generator) (hg : g.Importable) {document : Data}
    {source : Option String} (h : Model.ofDocument document source = .ok m) (hk : m.PlainKeys)
    {e : ρ} {s : σ} {gen : Generated}
    (hgen : (g.generate render sink m e s).outcome = .ok gen) :
    ∃ placed : List (Item × GeneratedFile), gen.files = placed.map (·.2) ∧
      (∀ (i : Nat) (kind : Kind) (index : GeneratedFile),
        placed[i]? = some (.kindIndex kind, index) →
          ∃ (call : RenderCall) (c : Collection), (g.calls render sink m e s)[i]? = some call ∧
            call.context = c.context ∧
            List.Forall₂ (fun listed x => ∃ file, (x.item, file) ∈ placed ∧
              file.path = listed.fullPath ∧
                resolve index.path ("./" ++ stripExtension listed.fileName) ++
                  (g.policyOf kind).extension = normalText file.path)
              c.items (m.entities.filter (·.kind == kind))) ∧
      ∀ a ∈ m.aggregates, ∃ (i : Nat) (importer : GeneratedFile) (call : RenderCall),
        placed[i]? = some (a.item, importer) ∧ (g.calls render sink m e s)[i]? = some call ∧
          g.config.templateFor aggregateRole = .ok call.template ∧
          Renders render call importer.content ∧
          (∃ templates source t, Builtin.sources.lookup "typescript" = some templates ∧
            templates.lookup "aggregate.j2" = some source ∧
            Template.ofSource (some "aggregate.j2") (Engine.escapes "aggregate.j2") source = .ok t ∧
            ∀ text, t.render call.context = .ok text → ∃ rest, text = String.join
              ((a.entitiesOf .command ++ a.entitiesOf .event).map g.importOf) ++ rest) ∧
          ∀ x ∈ a.entities, ∃ file, (x.item, file) ∈ placed ∧
            resolve importer.path (g.specifier x) ++ (g.policyOf x.kind).extension =
              normalText file.path := by
  have hf := fresh_ofDocument h
  obtain ⟨placed, hfiles, hslots, _, hrendered⟩ := generate_rendered g hf hgen
  refine ⟨placed, hfiles, fun i kind index hi => ?_, fun a ha => ?_⟩
  · obtain ⟨f, hplanned, hitem, hpath, call, hcall, _, hcontext, _⟩ := hrendered i _ index hi
    obtain ⟨name, hindex, hname⟩ := hg.index
    rw [eq_kindIndexFile hplanned hitem] at hpath hcontext
    rw [path_kindIndexFile hindex hname] at hpath
    have hfrom : joinPath [g.kindFolder kind, name] = index.path := Except.ok.inj hpath
    refine ⟨call, Registry.group g.kindFolder (m.entities.map g.registration) kind, hcall,
      hcontext.symm, ?_⟩
    show List.Forall₂ _ (Registry.itemsAmong (m.entities.map g.registration) kind) _
    rw [itemsAmong_registrations, List.forall₂_map_left_iff, List.forall₂_same]
    intro x hlisted
    obtain ⟨hx, hkind⟩ := List.mem_filter.mp hlisted
    obtain rfl := beq_iff_eq.mp hkind
    obtain ⟨file, hplaced, hto⟩ := exists_placed hslots (g.entitySlot_mem_layout hx)
    have hto : g.entityPath x = file.path := Except.ok.inj hto
    simp only [Generator.registration]
    refine ⟨file, hplaced, hto.symm, ?_⟩
    rw [← hto, ← hfrom]
    exact resolve_beside hg hf hk hx hname
  · obtain ⟨importer, hmem, _⟩ := exists_placed hslots (g.aggregateSlot_mem_layout ha)
    obtain ⟨i, hi⟩ := List.getElem?_of_mem hmem
    obtain ⟨f, hplanned, hitem, hpath, call, hcall, htemplate, hcontext, hcontent⟩ :=
      hrendered i _ importer hi
    rw [eq_aggregateFile hf hplanned ha hitem] at hpath htemplate hcontext
    have hfrom : g.aggregatePath a = importer.path := Except.ok.inj hpath
    have hdescribes : g.DescribesAggregate m a call.context :=
      hcontext ▸ g.describesAggregate_context h ha
    refine ⟨i, importer, call, hi, hcall, htemplate, hcontent,
      exists_importTemplate (hf.aggregates a ha) hdescribes, fun x hx => ?_⟩
    have hx : x ∈ m.entities := List.mem_flatMap.mpr ⟨a, ha, hx⟩
    obtain ⟨file, hfile, hto⟩ := exists_placed hslots (g.entitySlot_mem_layout hx)
    have hto : g.entityPath x = file.path := Except.ok.inj hto
    refine ⟨file, hfile, ?_⟩
    rw [← hfrom, ← hto]
    exact resolve_kindPath hg hf hk hx (isName_aggregate hg hk ha)

/-- A generator with folders of different depths, whose files can be imported. -/
def importableGenerator : Generator where
  config := Config.standard
  workingFolder := []
  aggregate := ⟨".js", "domain/aggregates", "Aggregate", false⟩
  command := ⟨".js", "domain/commands", "Command", false⟩
  event := ⟨".js", "shared/./events", "Event", true⟩
  fault := ⟨".js", "", "Fault", false⟩

/-- With a plain extension the folder and the suffix of a policy decide. -/
theorem importable_js {folder suffix : String} {owned : Bool}
    (hbelow : (ofString folder).StaysBelow) (hword : HasWord suffix.toList)
    (hplain : '/' ∉ suffix.toList) : NamingPolicy.Importable ⟨".js", folder, suffix, owned⟩ :=
  ⟨hbelow, ⟨"js", rfl, by decide, by decide, by decide⟩, hword, hplain⟩

theorem importable_importableGenerator : importableGenerator.Importable := by
  refine ⟨?_, fun kind => ?_, "index.js", rfl, by decide, by decide, by decide⟩
  · exact importable_js (by decide +kernel) ⟨'A', by decide, by decide⟩ (by decide)
  · cases kind with
    | command => exact importable_js (by decide +kernel) ⟨'C', by decide, by decide⟩ (by decide)
    | event => exact importable_js (by decide +kernel) ⟨'E', by decide, by decide⟩ (by decide)
    | fault => exact importable_js (by decide +kernel) ⟨'F', by decide, by decide⟩ (by decide)

theorem generate_specifiers_orders : ∃ (gen : Generated) (placed : List (Item × GeneratedFile))
    (importer file : GeneratedFile),
    (importableGenerator.generate countingRenderer memorySink orders 0 []).outcome = .ok gen ∧
      gen.files = placed.map (·.2) ∧ (.aggregate "order", importer) ∈ placed ∧
      (.entity .event "order" "placed", file) ∈ placed ∧
      resolve importer.path "../../shared/events/order-placed-event" ++ ".js" =
        normalText file.path := by
  obtain ⟨gen, hgen⟩ : ∃ gen, (importableGenerator.generate countingRenderer memorySink orders 0
      []).outcome = .ok gen := exists_ok_of_isSome (by decide +kernel)
  have hkeys : orders.PlainKeys := ⟨by decide +kernel, by decide +kernel⟩
  have hspecifier : importableGenerator.specifier ⟨.event, "placed", "order", [], none⟩ =
      "../../shared/events/order-placed-event" := by decide +kernel
  obtain ⟨placed, hfiles, _, haggregates⟩ := generate_specifiers importableGenerator
    importable_importableGenerator ofDocument_orders hkeys hgen
  obtain ⟨_, importer, _, hi, _, _, _, _, hentities⟩ := haggregates _ List.mem_cons_self
  obtain ⟨file, hfile, hleads⟩ := hentities _ List.mem_cons_self
  rw [hspecifier] at hleads
  exact ⟨gen, placed, importer, file, hgen, hfiles, List.mem_of_getElem? hi, hfile, hleads⟩

end DomainGen
