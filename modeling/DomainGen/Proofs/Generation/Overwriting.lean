import DomainGen.Proofs.Generation.Listing
import DomainGen.Proofs.Sink.Directory

/-!
# Files of one place

A walk compares output paths as texts. Texts that are different can still be two ways to one place:
a double dot in a key or a folder takes back the component before it, and then the later file
replaces the earlier one. Where no path has such a detour, different texts are different places.

* `nodup_normalText_iff` : joined texts have different normal forms unless one has a detour;
* `generate_overwriting_iff` : **when two files of a successful walk have one normal form**, and
  what is in the output folder then;
* `detour_overwrites` : a walk that loses a file.
-/

namespace DomainGen

variable {ρ σ : Type} {render : Renderer ρ} {sink : Sink σ} {m : Model}

/-! ## 1. Normal forms -/

/-- **Joined texts that differ have one normal form only if one of them has a detour.** -/
theorem nodup_normalText_iff {paths : List String} (hn : paths.Nodup)
    (hj : ∀ p ∈ paths, ∃ texts, p = joinPath texts) :
    (paths.map Path.normalText).Nodup ↔ ∀ p ∈ paths, ∀ q ∈ paths, p ≠ q →
      (Path.ofString p).hasDetour = true → Path.normalText p ≠ Path.normalText q := by
  rw [List.nodup_map_iff_inj_on hn]
  constructor
  · intro hinj p hp q hq hne _ heq
    exact hne (hinj p hp q hq heq)
  · intro hdetour p hp q hq heq
    refine Classical.byContradiction fun hne => ?_
    have plain : ∀ r ∈ paths, (Path.ofString r).hasDetour = false → Path.normalText r = r := by
      intro r hr hd
      obtain ⟨texts, rfl⟩ := hj r hr
      exact Path.normalText_joinPath hd
    cases hdp : (Path.ofString p).hasDetour with
    | true => exact hdetour p hp q hq hne hdp heq
    | false =>
        cases hdq : (Path.ofString q).hasDetour with
        | true => exact hdetour q hq p hp (Ne.symm hne) hdq heq.symm
        | false =>
            rw [plain p hp hdp, plain q hq hdq] at heq
            exact hne heq

/-! ## 2. Main result -/

variable (render) in
/-- **What a successful walk hands over has different paths, and also different normal forms unless
    a path has a detour to the place of another one.** In an output folder every file is there with
    its text unless a later one has its place. Paths that stay below the folder have different
    places exactly if they have different normal forms. -/
theorem generate_overwriting_iff (g : Generator) {document : Data} {source : Option String}
    (h : Model.ofDocument document source = .ok m) (e : ρ) :
    (∀ {σ : Type} (sink : Sink σ) (s : σ) (gen : Generated),
      (g.generate render sink m e s).outcome = .ok gen →
        (gen.files.map (·.path)).Nodup ∧
        ((gen.files.map fun f => Path.normalText f.path).Nodup ↔
          ∀ f ∈ gen.files, ∀ y ∈ gen.files, f.path ≠ y.path →
            (Path.ofString f.path).hasDetour = true →
              Path.normalText f.path ≠ Path.normalText y.path)) ∧
    ∀ (root : Path) (encoding : String) (d : Directory) (gen : Generated),
      (g.generate render (directorySink root encoding) m e d).outcome = .ok gen →
        (∀ before f after, gen.files = before ++ f :: after →
          (∀ y ∈ after, Directory.placeOf root d.tree f.path ≠
            Directory.placeOf root d.tree y.path) →
          Directory.Holds root encoding
            (g.generate render (directorySink root encoding) m e d).sink f) ∧
        ∀ f ∈ gen.files, ∀ y ∈ gen.files, (Path.ofString f.path).StaysBelow →
          (Path.ofString y.path).StaysBelow →
          (Directory.placeOf root d.tree f.path = Directory.placeOf root d.tree y.path ↔
            Path.normalText f.path = Path.normalText y.path) := by
  have hf := fresh_ofDocument h
  constructor
  · intro σ sink s gen hgen
    obtain ⟨hn, hj, _⟩ := generate_eq_ok g hf hgen
    have hjoined : ∀ p ∈ gen.files.map (·.path), ∃ texts, p = joinPath texts := by
      intro p hp
      obtain ⟨f, hfile, rfl⟩ := List.mem_map.mp hp
      exact hj f hfile
    have hnormal := nodup_normalText_iff hn hjoined
    rw [List.map_map] at hnormal
    refine ⟨hn, hnormal.trans ⟨?_, ?_⟩⟩
    · intro hall f hfile y hy
      exact hall f.path (List.mem_map_of_mem hfile) y.path (List.mem_map_of_mem hy)
    · intro hall p hp q hq
      obtain ⟨f, hfile, rfl⟩ := List.mem_map.mp hp
      obtain ⟨y, hy, rfl⟩ := List.mem_map.mp hq
      exact hall f hfile y hy
  · intro root encoding d gen hgen
    obtain ⟨_, _, htakes⟩ := generate_eq_ok g hf hgen
    refine ⟨fun before f after hfiles hafter => ?_, fun f _ y _ => Directory.placeOf_eq_iff⟩
    rw [hfiles] at htakes
    exact Directory.holds_of_takes htakes hafter

theorem generate_overwriting_iff_orders : ∃ gen,
    (plainGenerator.generate countingRenderer memorySink orders 0 []).outcome = .ok gen ∧
      gen.files = ordersFiles.map (·.2) ∧
      (gen.files.map fun f => Path.normalText f.path).Nodup := by
  have hfiles : (plainGenerator.generate countingRenderer memorySink orders 0
      []).outcome.toOption.map (·.files) = some (ordersFiles.map (·.2)) := by decide +kernel
  obtain ⟨gen, hgen, hfiles⟩ := files_eq_ok hfiles
  have hall := (generate_overwriting_iff countingRenderer plainGenerator ofDocument_orders 0).1
    memorySink [] gen hgen
  refine ⟨gen, hgen, hfiles, hall.2.mpr ?_⟩
  rw [hfiles]
  decide +kernel

/-! ## 3. A file that is lost -/

/-- Two aggregates, the second with a key that takes its first part back. -/
def detourDocument : Data :=
  .mapping [(.text "aggregates", .mapping [
    (.text "b", .mapping []), (.text "x/../b", .mapping [])])]

/-- The model of the document. -/
def detourModel : Model where
  aggregates := [⟨"b", [], [], none⟩, ⟨"x/../b", [], [], none⟩]
  extra := []
  source := none

/-- The files of the model. -/
def detourFiles : List GeneratedFile :=
  [⟨"aggregates/b.js", "0", some "B"⟩, ⟨"aggregates/x/../b.js", "1", some "X/../b"⟩,
    ⟨"index.js", "2", none⟩]

/-- **A key with a detour overwrites another aggregate**: the walk succeeds, but two of its files
    have one normal form, and one place in an output folder. -/
theorem detour_overwrites : Model.ofDocument detourDocument none = .ok detourModel ∧
    (∃ gen, (plainGenerator.generate countingRenderer memorySink detourModel 0 []).outcome =
      .ok gen ∧ gen.files = detourFiles) ∧
    ¬ (detourFiles.map fun f => Path.normalText f.path).Nodup ∧
    Directory.placeOf ⟨.relative, ["out"]⟩ ⟨[(["out"], .folder)], []⟩ "aggregates/b.js" =
      Directory.placeOf ⟨.relative, ["out"]⟩ ⟨[(["out"], .folder)], []⟩ "aggregates/x/../b.js" := by
  refine ⟨rfl, files_eq_ok ?_, ?_, ?_⟩
  · decide +kernel
  · decide +kernel
  · decide +kernel

end DomainGen
