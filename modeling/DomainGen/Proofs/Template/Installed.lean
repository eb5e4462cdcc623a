import DomainGen.Pipeline
import DomainGen.Proofs.FileTree.Confinement
import DomainGen.Proofs.FileTree.Reading
import DomainGen.Proofs.Template.Cache
import DomainGen.Proofs.Template.Source
import Mathlib.Tactic.FinCases

/-!
# The built-in sets in a file tree

The built-in sets are files like any others. A tree in which they are installed gives their texts back,
and the engine of a configuration that names a set, and no folder of its own, gives the templates of the
set.

* `Builtin.Installed` : the texts of the sets can be read; `installed_install` : **so it is after they are
  installed**;
* `exists_engineOf`, `given_of_installed` : **a set that is installed has an engine**, which gives its
  templates.
-/

namespace DomainGen.Template

open Text

namespace Builtin

/-! ## 1. Installing -/

/-- Where a template of a set is. -/
def pathOf (set name : String) : Path := (folder.append ⟨.relative, [set]⟩).append ⟨.relative, [name]⟩

/-- The templates of all sets can be read. -/
def Installed (tree : FileTree) : Prop :=
  ∀ x ∈ sources, ∀ y ∈ x.2, tree.readText (pathOf x.1 y.1) "utf-8" = .ok y.2

/-- The files and folders of all sets. -/
def nodes : List (Place × Node) :=
  [(place.take 1, .folder), (place, .folder)]
    ++ sources.flatMap fun (set, templates) => nodesOf set templates

/-- Nothing stands where the sets are to be. -/
def IsFree (t : FileTree) : Prop := ∀ x ∈ t.nodes, x.1.head? ≠ some "builtin"

variable {t : FileTree}

theorem nodes_install (t : FileTree) : (install t).nodes = t.nodes ++ nodes :=
  List.append_assoc _ _ _

/-- Where nothing stood the sets stand. -/
theorem node?_install (h : IsFree t) (rest : List String) :
    (install t).node? ("builtin" :: rest) =
      (nodes.find? (·.1 == "builtin" :: rest)).map (·.2) := by
  have hnone : t.nodes.find? (·.1 == "builtin" :: rest) = none := by
    rw [List.find?_eq_none]
    intro x hx heq
    exact h x hx (congrArg List.head? (beq_iff_eq.mp heq))
  unfold FileTree.node?
  rw [nodes_install, List.find?_append, hnone]
  rfl

theorem find_place : (nodes.find? (·.1 == ["builtin"])).map (·.2) = some .folder ∧
    (nodes.find? (·.1 == ["builtin", "templates"])).map (·.2) = some .folder := ⟨rfl, rfl⟩

/-- The folder of a set and the files in it. -/
theorem find_template : ∀ x ∈ sources, ∀ y ∈ x.2,
    (nodes.find? (·.1 == ["builtin", "templates", x.1])).map (·.2) = some .folder ∧
      (nodes.find? (·.1 == ["builtin", "templates", x.1, y.1])).map (·.2) =
        some (.file (Utf8.encode y.2.toList)) := by
  intro x hx y hy
  rcases List.mem_cons.mp hx with rfl | hx
  · fin_cases hy <;> exact ⟨rfl, rfl⟩
  · obtain rfl := List.mem_singleton.mp hx
    fin_cases hy <;> exact ⟨rfl, rfl⟩

/-- The names of sets and templates can be components of a path. -/
theorem names_plain : ∀ x ∈ sources, ∀ y ∈ x.2, ∀ c ∈ ["builtin", "templates", x.1, y.1],
    c ≠ ".." ∧ c.utf8ByteSize ≤ 30 ∧ '\x00' ∉ c.toList := by decide +kernel

/-- No template has a carriage return. -/
theorem lines_plain : ∀ x ∈ sources, ∀ y ∈ x.2, '\r' ∉ y.2.toList := by
  intro x hx y hy
  rcases List.mem_cons.mp hx with rfl | hx
  · fin_cases hy
    all_goals
      simp only [plainAggregate, plainEntity, plainFault, plainIndex]
      rw [toList_lines (by repeat' constructor)]
      decide +kernel
  · obtain rfl := List.mem_singleton.mp hx
    fin_cases hy
    all_goals
      simp only [typedAggregate, typedEntity, typedFault, typedKindIndex, typedIndex]
      rw [toList_lines (by repeat' constructor)]
      decide +kernel

/-- One component down from a folder. -/
theorem step_down {place : Place} {c : String} (hplace : t.node? place = some .folder)
    (hc : c ≠ ".." ∧ c.utf8ByteSize ≤ 30 ∧ '\x00' ∉ c.toList) :
    t.step place c = .ok (place ++ [c]) := by
  have hsize : ¬ FileTree.maxNameBytes < c.utf8ByteSize := by
    unfold FileTree.maxNameBytes
    omega
  have hdots : ¬ (c == "..") = true := fun heq => hc.1 (beq_iff_eq.mp heq)
  unfold FileTree.step
  rw [hplace]
  dsimp only
  rw [if_neg hsize, if_neg hdots]

/-- The path of a template leads to its place. -/
theorem resolve_install (h : IsFree t) {x : String × List (String × String)} (hx : x ∈ sources)
    {y : String × String} (hy : y ∈ x.2) :
    (install t).resolve (pathOf x.1 y.1) = .ok ["builtin", "templates", x.1, y.1] := by
  have hplain := names_plain x hx y hy
  have hsize : ∀ x ∈ sources, ∀ y ∈ x.2, ¬ FileTree.maxPathBytes < (pathOf x.1 y.1).text.utf8ByteSize := by
    decide +kernel
  obtain ⟨hset, _⟩ := find_template x hx y hy
  refine FileTree.resolve_eq_ok_iff.mpr ⟨?_, hsize x hx y hy, ?_⟩
  · rw [List.any_eq_false]
    intro c hc hnull
    exact (hplain c hc).2.2 (List.contains_iff_mem.mp hnull)
  · show (install t).walk [] ["builtin", "templates", x.1, y.1] = _
    have hroot : (install t).node? [] = some .folder := rfl
    have hfirst := (node?_install h []).trans find_place.1
    have hsecond := (node?_install h ["templates"]).trans find_place.2
    have hthird := (node?_install h ["templates", x.1]).trans hset
    have hdown : ∀ {place : Place} {c : String}, (install t).node? place = some .folder →
        c ∈ ["builtin", "templates", x.1, y.1] → (install t).step place c = .ok (place ++ [c]) :=
      fun hplace hc => step_down hplace (hplain _ hc)
    exact FileTree.walk_cons_eq_ok.mpr ⟨_, hdown hroot (by simp), FileTree.walk_cons_eq_ok.mpr
      ⟨_, hdown hfirst (by simp), FileTree.walk_cons_eq_ok.mpr
        ⟨_, hdown hsecond (by simp), FileTree.walk_cons_eq_ok.mpr
          ⟨_, hdown hthird (by simp), rfl⟩⟩⟩⟩

/-- **After the sets are installed their templates can be read.** -/
theorem installed_install (h : IsFree t) : Installed (install t) := by
  intro x hx y hy
  have hfile := (node?_install h ["templates", x.1, y.1]).trans (find_template x hx y hy).2
  have hread := FileTree.read_of_node (resolve_install h hx hy) hfile
  exact FileTree.readText_of_read hread (lines_plain x hx y hy)

end Builtin

/-! ## 2. The engine of a set -/

section Engine

variable {tree : FileTree} {c : Config} {e : Engine} {set : String}

/-- A folder is held exactly if it is one, unless its path cannot be asked for. -/
theorem holdsFolder_eq_ok {p : Path} {b : Bool} (h : tree.holdsFolder p = .ok b) :
    tree.isFolder p = b := by
  obtain ⟨_, _, heq⟩ := except_map_eq_ok.mp h
  exact heq

/-- The engine of a set, if the folder of the set is there. -/
theorem engineOf_eq (hset : c.templateSet = .text set) (hname : set ≠ "")
    (hdir : c.templateDir = .null) : Pipeline.engineOf tree c =
      ((tree.holdsFolder (Builtin.folder.append (Path.ofString set))).mapError .fault >>= fun held =>
        if held = true then
          .ok (Engine.make tree [Builtin.folder.append (Path.ofString set)] [] c.templateEncoding)
        else .error (.template (.unknownSet set Builtin.sets))) := by
  have htrue : (Data.text set).isTrue = true := bne_iff_ne.mpr hname
  unfold Pipeline.engineOf Engine.ofSettings
  rw [hset, hdir, htrue]
  dsimp only [Engine.pathOf, bind, Except.bind]
  cases (tree.holdsFolder (Builtin.folder.append (Path.ofString set))).mapError Failure.fault with
  | error f => rfl
  | ok held => cases held <;> rfl

/-- The engine of a set searches the folder of the set and nothing else. -/
theorem engineOf_eq_ok (hset : c.templateSet = .text set) (hname : set ≠ "")
    (hdir : c.templateDir = .null) (h : Pipeline.engineOf tree c = .ok e) :
    e = ⟨[], [Builtin.folder.append (Path.ofString set)], c.templateEncoding, [], []⟩ := by
  rw [engineOf_eq hset hname hdir] at h
  obtain ⟨held, hheld, h⟩ := except_bind_eq_ok.mp h
  have hfolder := holdsFolder_eq_ok (except_mapError_eq_ok.mp hheld)
  split at h
  · rename_i htrue
    cases h
    unfold Engine.make
    rw [List.filter_cons_of_pos (hfolder.trans htrue)]
    rfl
  · cases h

/-- What holds a file is a folder. -/
theorem holdsFolder_of_isFile {folder : Path} {name : String}
    (hsize : ¬ FileTree.maxPathBytes < folder.text.utf8ByteSize)
    (h : tree.isFile (folder.append ⟨.relative, [name]⟩) = true) :
    tree.holdsFolder folder = .ok true := by
  obtain ⟨place, hplace⟩ : ∃ place, tree.resolve (folder.append ⟨.relative, [name]⟩) = .ok place := by
    unfold FileTree.isFile FileTree.at? at h
    cases hr : tree.resolve (folder.append ⟨.relative, [name]⟩) with
    | error f =>
        rw [hr] at h
        cases h
    | ok place => exact ⟨place, rfl⟩
  obtain ⟨hplain, _, hwalk⟩ := FileTree.resolve_eq_ok_iff.mp hplace
  obtain ⟨mid, hmid, hlast⟩ := @FileTree.walk_append tree folder.components [name] _ _ hwalk
  obtain ⟨_, hstep, _⟩ := FileTree.walk_cons_eq_ok.mp hlast
  have hparts : (folder.components.any fun c => c.toList.contains '\x00') = false := by
    have hall : ((folder.components ++ [name]).any fun c => c.toList.contains '\x00') = false := hplain
    rw [List.any_append, Bool.or_eq_false_iff] at hall
    exact hall.1
  have hresolve : tree.resolve folder = .ok mid :=
    FileTree.resolve_eq_ok_iff.mpr ⟨hparts, hsize, hmid⟩
  have hfolder : tree.isFolder folder = true :=
    FileTree.isFolder_iff.mpr ⟨mid, hresolve, FileTree.folder_of_step hstep⟩
  unfold FileTree.holdsFolder FileTree.exists?
  rw [hresolve, hfolder]
  rfl

/-- The names of the sets and their templates are plain, and none is one of a page. -/
theorem names_apart : ∀ x ∈ Builtin.sources, x.1 ≠ "" ∧
    Path.ofString x.1 = ⟨.relative, [x.1]⟩ ∧ ∀ y ∈ x.2,
      Engine.nameComponents? y.1 = some [y.1] ∧ Engine.escapes y.1 = false := by
  decide +kernel

/-- The paths of the folders of the sets are short. -/
theorem folders_short : ∀ x ∈ Builtin.sources,
    ¬ FileTree.maxPathBytes < (Builtin.folder.append ⟨.relative, [x.1]⟩).text.utf8ByteSize := by
  decide +kernel

/-- **A set that is installed has an engine.** -/
theorem exists_engineOf (hinstalled : Builtin.Installed tree) (hset : c.templateSet = .text set)
    (hdir : c.templateDir = .null) {templates : List (String × String)}
    (htemplates : (set, templates) ∈ Builtin.sources) : ∃ e, Pipeline.engineOf tree c = .ok e := by
  obtain ⟨hne, hpath, _⟩ := names_apart _ htemplates
  have hsome : ∀ x ∈ Builtin.sources, x.2 ≠ [] := by decide
  obtain ⟨y, hy⟩ := List.exists_mem_of_ne_nil _ (hsome _ htemplates)
  have htext := hinstalled (set, templates) htemplates y hy
  have hfolder := holdsFolder_of_isFile (folders_short _ htemplates)
    (FileTree.isFile_of_readText htext)
  rw [engineOf_eq hset hne hdir, hpath, hfolder]
  exact ⟨_, rfl⟩

/-- **The engine of a set gives its templates.** -/
theorem given_of_installed (hinstalled : Builtin.Installed tree)
    (hset : c.templateSet = .text set) (hdir : c.templateDir = .null)
    (hencoding : c.templateEncoding = .text "utf-8") (h : Pipeline.engineOf tree c = .ok e)
    {templates : List (String × String)} (htemplates : (set, templates) ∈ Builtin.sources)
    {name source : String} (hsource : templates.lookup name = some source) {t : Template}
    (ht : ofSource (some name) false source = .ok t) : e.given tree name = .ok t := by
  have hmem : (name, source) ∈ templates := by
    obtain ⟨before, after, heq, _⟩ := List.lookup_eq_some_iff.mp hsource
    exact heq ▸ List.mem_append_right before List.mem_cons_self
  obtain ⟨hne, hpath, hnames⟩ := names_apart _ htemplates
  obtain ⟨hcomponents, hescapes⟩ := hnames _ hmem
  have htext : tree.readText (Builtin.pathOf set name) "utf-8" = .ok source :=
    hinstalled (set, templates) htemplates (name, source) hmem
  have hfile : tree.isFile (Builtin.pathOf set name) = true := FileTree.isFile_of_readText htext
  rw [engineOf_eq_ok hset hne hdir h, hencoding, hpath]
  unfold Engine.given Engine.cached? Engine.load Engine.source?
  dsimp only [List.lookup]
  rw [hcomponents]
  have hfound : Engine.fileIn? tree [name] [Builtin.folder.append ⟨.relative, [set]⟩] =
      some (Builtin.pathOf set name) := by
    unfold Engine.fileIn?
    exact if_pos hfile
  dsimp only [Option.bind]
  rw [hfound]
  dsimp only [Engine.encodingName, bind, Except.bind]
  rw [htext]
  dsimp only [pure, Except.pure]
  rw [hescapes, ht]
  rfl

end Engine

end DomainGen.Template
