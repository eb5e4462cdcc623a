import DomainGen.Proofs.Generation.Simulation

/-!
# Complete walks

Where every file of the plan can be rendered, all paths are different and the sink refuses nothing,
generating succeeds, and what it lists and what the sink has taken are the files of the model.

* `Generator.layout` : **the files of a model**, by what they stand for, their paths and their
  classes, read off the aggregates and the entities alone;
* `layout_rendered` : texts do not change the layout; `length_layout` : how many files there are;
* `generate_complete` : the main result.
-/

namespace DomainGen

/-! ## 1. The layout -/

/-- Where a file goes and the name of the class in it, by what it stands for. -/
abbrev FileSlot := Item × Except Failure String × Option String

/-- The slot of a planned file. -/
def PlannedFile.slot (f : PlannedFile) : FileSlot := (f.item, f.path, f.className)

/-- The slot of a file that was placed. -/
def slotOf (x : Item × GeneratedFile) : FileSlot := (x.1, .ok x.2.path, x.2.className)

/-- The file that a step gives, if it gives one. -/
def PlanStep.file? : PlanStep → Option PlannedFile
  | .lookup _ => none
  | .file f => some f

namespace Generator

variable (g : Generator)

/-- The slots of an aggregate and its entities. -/
def aggregateSlots (a : Aggregate) : List FileSlot :=
  (a.item, .ok (joinPath [g.aggregate.folder, (g.aggregateNames a.name).fileName]),
      some (g.aggregateNames a.name).className) ::
    a.entities.map fun e =>
      (e.item, .ok (joinPath [(g.policyOf e.kind).folder, (g.namesOf e).fileName]),
        some (g.namesOf e).className)

/-- The slot of the index of a kind. -/
def kindIndexSlot (kind : Kind) : FileSlot :=
  (.kindIndex kind, (joinParts [.text (g.policyOf kind).folder, g.config.subModuleName]).mapError
    .fault, none)

/-- Does a model have an index of its kinds? -/
def hasRootIndex (m : Model) : Bool :=
  !m.populatedKinds.isEmpty || g.config.emitEmptyRootIndex.isTrue

/-- The slot of the index of the kinds. -/
def rootIndexSlots (m : Model) : List FileSlot :=
  if g.hasRootIndex m then
    [(.rootIndex, (joinParts [g.config.rootModuleName]).mapError .fault, none)]
  else []

/-- The slots of all files of a model: aggregates with their entities, indexes of the populated
    kinds, index of the kinds. -/
def layout (m : Model) : List FileSlot :=
  m.aggregates.flatMap g.aggregateSlots ++ m.populatedKinds.map g.kindIndexSlot
    ++ g.rootIndexSlots m

theorem mem_rootIndexSlots {m : Model} {slot : FileSlot} : slot ∈ g.rootIndexSlots m ↔
    g.hasRootIndex m = true ∧
      slot = (.rootIndex, (joinParts [g.config.rootModuleName]).mapError .fault, none) := by
  unfold rootIndexSlots
  cases g.hasRootIndex m with
  | true => exact List.mem_singleton.trans (and_iff_right rfl).symm
  | false => exact iff_of_false List.not_mem_nil fun h => Bool.false_ne_true h.1

/-- Where kinds are populated there is an index of the kinds. -/
theorem hasRootIndex_of_populated {m : Model} (h : m.populatedKinds ≠ []) :
    g.hasRootIndex m = true := by
  unfold hasRootIndex
  rw [List.isEmpty_eq_false_iff.mpr h]
  rfl

/-! ## 2. The layout of the plan -/

theorem slots_itemFiles (m : Model) :
    (g.itemFiles m).map PlannedFile.slot = m.aggregates.flatMap g.aggregateSlots := by
  unfold itemFiles
  rw [List.map_flatMap]
  congr 1
  funext a
  unfold aggregateFiles
  rw [List.map_cons, List.map_map]
  rfl

theorem slots_indexFiles (m : Model) : (g.indexFiles m.entities).map PlannedFile.slot =
    m.populatedKinds.map g.kindIndexSlot ++ g.rootIndexSlots m := by
  unfold indexFiles
  rw [List.map_append, List.map_map, g.collections_registryOf, List.map_map]
  congr 1
  unfold rootIndexFiles rootIndexSlots hasRootIndex
  rw [List.isEmpty_map]
  split <;> rfl

/-- The steps of the plan give the planned files. -/
theorem files_plan (m : Model) : (g.plan m).filterMap PlanStep.file? = g.plannedFiles m := by
  have files : ∀ fs : List PlannedFile, (fs.map PlanStep.file).filterMap PlanStep.file? = fs := by
    intro fs
    rw [List.filterMap_map]
    exact List.filterMap_some
  unfold plan plannedFiles
  rw [List.filterMap_append, List.filterMap_cons_none rfl, files, files]

/-- The planned files have the slots of the layout. -/
theorem slots_plannedFiles (m : Model) : (g.plannedFiles m).map PlannedFile.slot = g.layout m := by
  unfold plannedFiles layout
  rw [List.map_append, slots_itemFiles, slots_indexFiles, ← List.append_assoc]

theorem slots_plan (m : Model) :
    ((g.plan m).filterMap PlanStep.file?).map PlannedFile.slot = g.layout m := by
  rw [files_plan, slots_plannedFiles]

/-! ## 3. Counting -/

theorem length_itemSlots : ∀ as : List Aggregate, (as.flatMap g.aggregateSlots).length =
    as.length + (as.flatMap Aggregate.entities).length
  | [] => rfl
  | a :: rest => by
      have ih := length_itemSlots rest
      have ha : (g.aggregateSlots a).length = a.entities.length + 1 := by
        unfold aggregateSlots
        rw [List.length_cons, List.length_map]
      rw [List.flatMap_cons, List.flatMap_cons, List.length_append, List.length_append, ih, ha,
        List.length_cons]
      omega

/-- **There is one file for each aggregate, each entity and each populated kind**, and one more if
    there is an index of the kinds. -/
theorem length_layout (m : Model) : (g.layout m).length = m.aggregates.length + m.count none
    + m.populatedKinds.length + if g.hasRootIndex m then 1 else 0 := by
  have hroot : (g.rootIndexSlots m).length = if g.hasRootIndex m then 1 else 0 := by
    unfold rootIndexSlots
    split <;> rfl
  unfold layout
  rw [List.length_append, List.length_append, length_itemSlots, List.length_map, hroot,
    Model.count_none]
  rfl

end Generator

/-! ## 4. The layout of what is rendered -/

section Render

variable {ρ σ : Type} {render : Renderer ρ} {sink : Sink σ} {kept : σ → List GeneratedFile}

theorem rendered_slot {f : PlannedFile} {e e' : ρ} {file : GeneratedFile}
    (h : f.rendered render e = (e', .ok file)) : slotOf (f.item, file) = f.slot := by
  obtain ⟨hpath, hclass⟩ := rendered_eq_ok h
  unfold slotOf PlannedFile.slot
  rw [hpath, hclass]

/-- The files of steps that can be rendered have the slots of the steps. -/
theorem layout_rendered : ∀ {steps : List PlanStep} {e : ρ} {placed : List (Item × GeneratedFile)},
    renderSteps render e steps = .ok placed →
      placed.map slotOf = (steps.filterMap PlanStep.file?).map PlannedFile.slot
  | [], e, placed, h => by
      cases h
      rfl
  | .lookup (.error problem) :: rest, e, placed, h => by cases h
  | .lookup (.ok t) :: rest, e, placed, h => by
      have hrest : renderSteps render e rest = .ok placed := h
      rw [layout_rendered hrest]
      rfl
  | .file f :: rest, e, placed, h => by
      obtain ⟨e', file, others, hr, hothers, rfl⟩ := renderSteps_file h
      rw [List.map_cons, rendered_slot hr, layout_rendered hothers]
      rfl

/-- Paths are different exactly if they were planned to be. -/
theorem nodup_slots_iff {placed : List (Item × GeneratedFile)} :
    ((placed.map slotOf).map (·.2.1)).Nodup ↔ (pathsOf placed).Nodup := by
  have hpaths : (placed.map slotOf).map (·.2.1) = (pathsOf placed).map Except.ok := by
    unfold pathsOf
    rw [List.map_map, List.map_map]
    rfl
  rw [hpaths]
  exact List.nodup_map_iff fun _ _ h => Except.ok.inj h

/-! ## 5. Main result -/

/-- **A model all of whose files can be rendered to different paths is generated completely**, into
    every sink that refuses nothing. The result and the sink have the files of the layout, in order,
    with the rendered texts. -/
theorem generate_complete (g : Generator) (hk : sink.Keeps kept) (ha : sink.AcceptsAll)
    {document : Data} {source : Option String} {m : Model}
    (h : Model.ofDocument document source = .ok m) {e : ρ} {placed : List (Item × GeneratedFile)}
    (hr : renderSteps render e (g.plan m) = .ok placed) (hn : ((g.layout m).map (·.2.1)).Nodup)
    (s : σ) :
    ∃ gen, (g.generate render sink m e s).outcome = .ok gen ∧
      gen.files = placed.map (·.2) ∧
      kept (g.generate render sink m e s).sink = kept s ++ gen.files ∧
      placed.map slotOf = g.layout m ∧
      (∀ kind, kind ∈ m.populatedKinds ↔ 0 < m.count (some kind)) ∧
      gen.files.length = m.aggregates.length + m.count none + m.populatedKinds.length
        + (if g.hasRootIndex m then 1 else 0) ∧
      gen.metadata = Entries.ofFields [("source", .ofOption m.source),
        ("aggregates", .int m.aggregates.length), ("files", .int gen.files.length),
        ("kinds", .mapping (Entries.ofFields (m.populatedKinds.map fun kind =>
          (kind.text, .int (m.count (some kind))))))] := by
  have hf := fresh_ofDocument h
  have hslots : placed.map slotOf = g.layout m := (layout_rendered hr).trans (g.slots_plan m)
  obtain ⟨q, hq, hplaced⟩ := takeSteps_complete (p := .start e s) ha hr
    (nodup_slots_iff.mp (hslots ▸ hn))
  have hfiles : q.files = placed.map (·.2) := by
    unfold Progress.files
    rw [hplaced]
    rfl
  have hlength : (placed.map (·.2)).length = (g.layout m).length := by
    rw [← hslots, List.length_map, List.length_map]
  have hgen := generate_eq_takeSteps g render sink hf e s
  rw [hq] at hgen
  rw [hgen]
  refine ⟨_, rfl, hfiles, ?_, hslots, fun kind => hf.mem_populatedKinds, ?_, ?_⟩
  · exact takeSteps_kept hk hq (List.append_nil _).symm
  · rw [← g.length_layout m, ← hlength, ← hfiles]
  · unfold Generated.metadata
    rw [List.map_map]
    rfl

end Render

/-! ## 6. Two orders of kinds

A small model in which events are met before commands, so its indexes do not follow the order of the
kinds. -/

/-- A generator with one folder for each kind and names without suffixes. -/
def plainGenerator : Generator where
  config := Config.standard
  workingFolder := []
  aggregate := ⟨".js", "aggregates", "", false⟩
  command := ⟨".js", "commands", "", false⟩
  event := ⟨".js", "events", "", false⟩
  fault := ⟨".js", "faults", "", false⟩

/-- Renders the number of the files rendered before. -/
def countingRenderer : Renderer Nat :=
  fun n _ _ => (n + 1, .ok (String.ofList (Nat.toDigits 10 n)))

/-- A document with an event in its first aggregate and a command in its second. -/
def ordersDocument : Data :=
  .mapping [(.text "aggregates", .mapping [
    (.text "order", .mapping [(.text "events", .mapping [(.text "placed", .null)])]),
    (.text "invoice", .mapping [(.text "commands", .mapping [(.text "send", .null)])])])]

/-- The model of the document. -/
def orders : Model where
  aggregates := [
    ⟨"order", [], [(.event, [⟨.event, "placed", "order", [], none⟩])], none⟩,
    ⟨"invoice", [], [(.command, [⟨.command, "send", "invoice", [], none⟩])], none⟩]
  extra := []
  source := none

/-- The files of the model. -/
def ordersFiles : List (Item × GeneratedFile) := [
  (.aggregate "order", ⟨"aggregates/order.js", "0", some "Order"⟩),
  (.entity .event "order" "placed", ⟨"events/placed.js", "1", some "Placed"⟩),
  (.aggregate "invoice", ⟨"aggregates/invoice.js", "2", some "Invoice"⟩),
  (.entity .command "invoice" "send", ⟨"commands/send.js", "3", some "Send"⟩),
  (.kindIndex .event, ⟨"events/index.js", "4", none⟩),
  (.kindIndex .command, ⟨"commands/index.js", "5", none⟩),
  (.rootIndex, ⟨"index.js", "6", none⟩)]

theorem ofDocument_orders : Model.ofDocument ordersDocument none = .ok orders := rfl

theorem renderSteps_orders :
    renderSteps countingRenderer 0 (plainGenerator.plan orders) = .ok ordersFiles := by
  rfl

theorem generate_complete_orders : ∃ gen,
    (plainGenerator.generate countingRenderer memorySink orders 0 []).outcome = .ok gen ∧
      gen.files = ordersFiles.map (·.2) ∧
      (plainGenerator.generate countingRenderer memorySink orders 0 []).sink = gen.files := by
  have hpaths : (plainGenerator.layout orders).map (·.2.1) =
      (ordersFiles.map (·.2.path)).map .ok := rfl
  have hn : ((plainGenerator.layout orders).map (·.2.1)).Nodup := by
    rw [hpaths]
    exact List.Nodup.map (fun _ _ => Except.ok.inj) (by decide +kernel)
  obtain ⟨gen, hgen, hfiles, hkept, _⟩ := generate_complete plainGenerator Sink.memorySink_keeps
    Sink.memorySink_acceptsAll ofDocument_orders renderSteps_orders hn []
  exact ⟨gen, hgen, hfiles, hkept⟩

end DomainGen
