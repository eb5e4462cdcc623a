import DomainGen.Proofs.Generation.Listing
import DomainGen.Proofs.Naming.FileName
import DomainGen.Proofs.Sink.Directory

/-!
# Output below the root

Every path of a walk is joined from a folder and a name. The folders and the names of indexes are
settings; the names of items are made from keys of a document, and a key may hold slashes and double
dots. Where the settings lead down, the keys alone decide whether the output stays where it belongs.

* `Generator.SettingsDescend`, `Generator.KeysDescend` : what the two parts have to do with it;
* `descends_layout` : all paths descend if both do;
* `generate_descends_iff` : **the paths of a successful walk descend exactly if the keys do**, and
  then no walk, successful or not, hands over anything else or changes anything outside of the root
  of a directory;
* `escaping_keys` : a walk that writes outside of its output folder.
-/

namespace DomainGen

open FileTree

variable {ρ σ : Type} {render : Renderer ρ} {m : Model}

/-! ## 1. Settings and keys -/

namespace Generator

/-- The folders and the names of the indexes are relative and have no double dots. -/
structure SettingsDescend (g : Generator) : Prop where
  aggregateFolder : (Path.ofString g.aggregate.folder).Descends
  kindFolder : ∀ kind, (Path.ofString (g.kindFolder kind)).Descends
  subModuleName : ∀ s, .text s = g.config.subModuleName → (Path.ofString s).Descends
  rootModuleName : ∀ s, .text s = g.config.rootModuleName → (Path.ofString s).Descends

/-- The keys, with the suffixes and extensions that are appended to them, are relative and have no
    double dots between slashes. -/
structure KeysDescend (g : Generator) (m : Model) : Prop where
  aggregates : ∀ a ∈ m.aggregates,
    (Path.ofString (g.aggregate.plainFileName a.name none)).Descends
  entities : ∀ e ∈ m.entities,
    (Path.ofString ((g.policyOf e.kind).plainFileName e.name (some e.owner))).Descends

variable {g : Generator}

theorem SettingsDescend.aggregatePath (h : g.SettingsDescend) (a : Aggregate) :
    (Path.ofString (g.aggregatePath a)).Descends ↔
      (Path.ofString (g.aggregate.plainFileName a.name none)).Descends := by
  unfold Generator.aggregatePath
  rw [Path.descends_joinPath, List.forall_mem_cons, List.forall_mem_singleton,
    ← g.aggregate.descends_fileName]
  exact ⟨And.right, fun hname => ⟨h.aggregateFolder, hname⟩⟩

theorem SettingsDescend.entityPath (h : g.SettingsDescend) (e : Entity) :
    (Path.ofString (g.entityPath e)).Descends ↔
      (Path.ofString ((g.policyOf e.kind).plainFileName e.name (some e.owner))).Descends := by
  unfold Generator.entityPath
  rw [Path.descends_joinPath, List.forall_mem_cons, List.forall_mem_singleton,
    ← (g.policyOf e.kind).descends_fileName]
  exact ⟨And.right, fun hname => ⟨h.kindFolder e.kind, hname⟩⟩

/-- **All paths of the layout descend if the settings and the keys do.** -/
theorem descends_layout (hg : g.SettingsDescend) (hm : g.KeysDescend m) {slot : FileSlot}
    (hslot : slot ∈ g.layout m) {path : String} (hpath : slot.2.1 = .ok path) :
    (Path.ofString path).Descends := by
  rcases mem_layout g hslot hpath with ⟨a, ha, heq⟩ | ⟨e, he, heq⟩ | ⟨kind, texts, heq, htexts⟩ |
    ⟨texts, heq, htexts⟩
  · rw [heq]
    exact (hg.aggregatePath a).mpr (hm.aggregates a ha)
  · rw [heq]
    exact (hg.entityPath e).mpr (hm.entities e he)
  · rw [heq]
    refine Path.descends_joinPath.mpr fun s hs => ?_
    rcases htexts s hs with hfolder | hname
    · rw [hfolder]
      exact hg.kindFolder kind
    · exact hg.subModuleName s hname
  · rw [heq]
    exact Path.descends_joinPath.mpr fun s hs => hg.rootModuleName s (htexts s hs)

/-- If all paths of the layout descend, the keys do. -/
theorem keysDescend_of_layout (hg : g.SettingsDescend)
    (h : ∀ slot ∈ g.layout m, ∀ path, slot.2.1 = .ok path → (Path.ofString path).Descends) :
    g.KeysDescend m where
  aggregates a ha := (hg.aggregatePath a).mp (h _ (g.aggregateSlot_mem_layout ha) _ rfl)
  entities e he := (hg.entityPath e).mp (h _ (g.entitySlot_mem_layout he) _ rfl)

end Generator

/-! ## 2. What is handed over -/

/-- **No walk hands over a path that does not descend** if the settings and the keys do. -/
theorem generate_descends_induct {I : σ → Prop} {sink : Sink σ} {g : Generator}
    (hg : g.SettingsDescend) (hm : g.KeysDescend m) (h : m.Fresh) (e : ρ)
    (hI : ∀ s f, (Path.ofString f.path).Descends → I s → I (sink s f).1) {s : σ} (hs : I s) :
    I (g.generate render sink m e s).sink := by
  refine generate_sink_induct g (fun s f hf hs => hI s f ?_ hs) render h e hs
  obtain ⟨x, hx, hpath⟩ := hf
  exact g.descends_layout hg hm (slot_mem_layout hx) hpath

/-! ## 3. Main result -/

variable (render) in
/-- **With settings that descend, the paths of a successful walk descend exactly if the keys do.**
    Then this holds for every file any walk hands over, and a directory is changed below its root
    only: what is outside stays as it is, and folders are added there only if the root itself was
    missing. -/
theorem generate_descends_iff {g : Generator} (hg : g.SettingsDescend) {document : Data}
    {source : Option String} (h : Model.ofDocument document source = .ok m) (e : ρ) :
    (∀ {σ : Type} (sink : Sink σ) (s : σ) (gen : Generated),
      (g.generate render sink m e s).outcome = .ok gen →
        ((∀ f ∈ gen.files, (Path.ofString f.path).Descends) ↔ g.KeysDescend m)) ∧
    (g.KeysDescend m →
      (∀ {σ : Type} (sink : Sink σ) (I : σ → Prop),
        (∀ s f, (Path.ofString f.path).Descends → I s → I (sink s f).1) →
        ∀ s, I s → I (g.generate render sink m e s).sink) ∧
      ∀ (root : Path) (encoding : String) (d : Directory) (place : Place),
        ¬ d.tree.target root <+: place →
        (g.generate render (directorySink root encoding) m e d).sink.tree.node? place =
            d.tree.node? place ∨
          d.tree.isFolder root = false ∧ d.tree.node? place = none ∧
            (g.generate render (directorySink root encoding) m e d).sink.tree.node? place =
              some .folder) := by
  have hf := fresh_ofDocument h
  constructor
  · intro σ sink s gen hgen
    obtain ⟨placed, hfiles, hslots, _, _⟩ := generate_placed g hf hgen
    constructor
    · intro hall
      refine g.keysDescend_of_layout hg fun slot hslot path hpath => ?_
      rw [← hslots] at hslot
      obtain ⟨x, hx, rfl⟩ := List.mem_map.mp hslot
      cases hpath
      exact hall x.2 (hfiles ▸ List.mem_map_of_mem hx)
    · intro hm f hfile
      rw [hfiles] at hfile
      obtain ⟨x, hx, rfl⟩ := List.mem_map.mp hfile
      exact g.descends_layout hg hm (hslots ▸ List.mem_map_of_mem hx) rfl
  · intro hm
    refine ⟨fun sink I hI s hs => generate_descends_induct hg hm hf e hI hs, ?_⟩
    intro root encoding d place hplace
    have hchange : ChangesBelow (d.tree.target root) (¬ d.tree.isFolder root = true) d.tree
        (g.generate render (directorySink root encoding) m e d).sink.tree :=
      generate_descends_induct (I := fun (s : Directory) =>
        ChangesBelow (d.tree.target root) (¬ d.tree.isFolder root = true) d.tree s.tree)
        hg hm hf e (fun s f hdescends hs => Directory.directorySink_changesBelow_trans hs hdescends)
        (.refl _)
    rw [← Bool.not_eq_true]
    exact hchange.outside hplace

theorem plainGenerator_settingsDescend : plainGenerator.SettingsDescend where
  aggregateFolder := by decide +kernel
  kindFolder kind := by cases kind <;> decide +kernel
  subModuleName s hs := by
    obtain rfl := Data.text.inj hs
    decide +kernel
  rootModuleName s hs := by
    obtain rfl := Data.text.inj hs
    decide +kernel

theorem orders_keysDescend : plainGenerator.KeysDescend orders where
  aggregates := by decide +kernel
  entities := by decide +kernel

/-- A directory with an empty folder for the output. -/
def emptyOutput : Directory := ⟨⟨[(["out"], .folder)], []⟩, []⟩

theorem generate_descends_iff_orders :
    (∃ gen, (plainGenerator.generate countingRenderer memorySink orders 0 []).outcome = .ok gen ∧
      gen.files = ordersFiles.map (·.2) ∧ ∀ f ∈ gen.files, (Path.ofString f.path).Descends) ∧
    ∀ place : Place, ¬ ["out"] <+: place →
      (plainGenerator.generate countingRenderer (directorySink ⟨.relative, ["out"]⟩ "utf-8") orders
        0 emptyOutput).sink.tree.node? place = emptyOutput.tree.node? place := by
  have hfiles : (plainGenerator.generate countingRenderer memorySink orders 0
      []).outcome.toOption.map (·.files) = some (ordersFiles.map (·.2)) := by decide +kernel
  obtain ⟨gen, hgen, hfiles⟩ := files_eq_ok hfiles
  have hall := generate_descends_iff countingRenderer plainGenerator_settingsDescend
    ofDocument_orders 0
  refine ⟨⟨gen, hgen, hfiles, (hall.1 memorySink [] gen hgen).mpr orders_keysDescend⟩, ?_⟩
  intro place hplace
  have hroot : emptyOutput.tree.isFolder ⟨.relative, ["out"]⟩ = true := by decide +kernel
  rcases (hall.2 orders_keysDescend).2 ⟨.relative, ["out"]⟩ "utf-8" emptyOutput place hplace with
    hsame | ⟨hmissing, _⟩
  · exact hsame
  · rw [hroot] at hmissing
    cases hmissing

/-! ## 4. Keys that lead elsewhere -/

/-- Two aggregates, one with an absolute path for a key and one whose key climbs. -/
def escapingDocument : Data :=
  .mapping [(.text "aggregates", .mapping [
    (.text "/srv/x", .mapping []), (.text "a/../../../b", .mapping [])])]

/-- The model of the document. -/
def escapingModel : Model where
  aggregates := [⟨"/srv/x", [], [], none⟩, ⟨"a/../../../b", [], [], none⟩]
  extra := []
  source := none

/-- **Keys can lead outside of the output folder**: with settings that descend the walk succeeds,
    one path is absolute and another one climbs, and their places in a directory are next to its
    root. -/
theorem escaping_keys : plainGenerator.SettingsDescend ∧
    Model.ofDocument escapingDocument none = .ok escapingModel ∧
    (plainGenerator.generate countingRenderer memorySink escapingModel 0
      []).outcome.toOption.map (·.files.map (·.path)) =
        some ["/srv/x.js", "aggregates/a/../../../b.js", "index.js"] ∧
    (Path.ofString "/srv/x.js").isAbsolute = true ∧
    ".." ∈ (Path.ofString "aggregates/a/../../../b.js").components ∧
    Directory.placeOf ⟨.relative, ["out"]⟩ emptyOutput.tree "/srv/x.js" = ["srv", "x.js"] ∧
    Directory.placeOf ⟨.relative, ["out"]⟩ emptyOutput.tree "aggregates/a/../../../b.js" =
      ["b.js"] := by
  refine ⟨plainGenerator_settingsDescend, rfl, ?_, ?_, ?_, ?_, ?_⟩
  · decide +kernel
  · decide +kernel
  · decide +kernel
  · decide +kernel
  · decide +kernel

end DomainGen
