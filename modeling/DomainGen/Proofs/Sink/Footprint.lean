import DomainGen.Loading.Source
import DomainGen.Proofs.FileTree.Confinement
import DomainGen.Proofs.Sink.Directory

/-!
# The footprint of files in a directory

What a path leads to depends on few places: its own and those on the way to it. Trees that have the
same there read the same at the path; and making a folder at a path adds folders there and nowhere
else.

A directory changes where it writes files, and adds folders on the way to them. What is read at a path
that has nothing to do with these places is therefore read as before.

* `FileTree.Visits` : a path passes a place; `FileTree.SameAlong` : trees that have the same at all
  places a path passes;
* `resolve_congr`, `readText_congr`, `readModelFile_congr` : **what is read at the path is the same**;
* `makeFolder_changesAt` : **making a folder adds folders on the way to it only**;
* `Directory.Writes`, `Directory.Makes` : the places of files and those on the way to them;
* `directorySink_changesAt`, `leaves_of_takes` : **files change these places and no others**, and each
  is there in the end unless a later one has its place;
* `Directory.Untouched` : a path whose reading depends on none of these places;
  `sameAlong_of_takes` : **what is read there stays**;
* `Directory.Apart` : a path that has nothing to do with the root; `untouched_of_apart` : **files below
  the root do not touch it**.
-/

namespace DomainGen

namespace FileTree

/-- The path passes the place, or leads there, if it can be followed that far. -/
def Visits (t : FileTree) (p : Path) (place : Place) : Prop :=
  ∃ cs, cs <+: p.components ∧ place = cs.foldl enter (t.origin p)

theorem visits_target (t : FileTree) (p : Path) : t.Visits p (t.target p) :=
  ⟨p.components, List.prefix_refl _, rfl⟩

/-- The places of a path depend on the tree only through the folder paths start from. -/
theorem visits_congr {t t' : FileTree} (h : t'.workingFolder = t.workingFolder) {p : Path}
    {place : Place} : t'.Visits p place ↔ t.Visits p place := by
  unfold Visits
  rw [origin_congr h]

/-! ## 1. What following a path looks at -/

/-- The trees have the same at all places the path passes, and paths start from the same folder. -/
structure SameAlong (p : Path) (t t' : FileTree) : Prop where
  start_eq : t'.workingFolder = t.workingFolder
  node_eq : ∀ {place}, t.Visits p place → t'.node? place = t.node? place

theorem step_congr {t t' : FileTree} {place : Place} (h : t'.node? place = t.node? place)
    (c : String) : t'.step place c = t.step place c := by
  unfold step
  rw [h]

theorem walk_congr {t t' : FileTree} : ∀ {cs : List String} {place : Place},
    (∀ ds, ds <+: cs → t'.node? (ds.foldl enter place) = t.node? (ds.foldl enter place)) →
      t'.walk place cs = t.walk place cs
  | [], _, _ => rfl
  | c :: cs, place, h => by
      have hplace : t'.node? place = t.node? place := h [] List.nil_prefix
      unfold walk
      rw [step_congr hplace c]
      cases hstep : t.step place c with
      | error e => rfl
      | ok next =>
          dsimp only
          refine walk_congr fun ds hds => ?_
          rw [step_eq_ok hstep]
          exact h (c :: ds) (List.prefix_cons_inj c |>.mpr hds)

section Along

variable {p : Path} {t t' : FileTree} (h : SameAlong p t t')
include h

/-- **The path leads to one place in both trees.** -/
theorem resolve_congr : t'.resolve p = t.resolve p := by
  have hwalk : t'.walk (t'.origin p) p.components = t.walk (t.origin p) p.components := by
    rw [origin_congr h.start_eq]
    exact walk_congr fun ds hds => h.node_eq ⟨ds, hds, rfl⟩
  unfold origin at hwalk
  unfold resolve
  rw [hwalk]

theorem node?_congr {place : Place} (hplace : t.resolve p = .ok place) :
    t'.node? place = t.node? place := by
  rw [resolve_eq_ok hplace]
  exact h.node_eq (t.visits_target p)

theorem exists?_congr : t'.exists? p = t.exists? p := by
  unfold exists?
  rw [resolve_congr h]
  cases hplace : t.resolve p with
  | ok place =>
      dsimp only
      rw [node?_congr h hplace]
  | error e =>
      cases e with
      | system s => cases s <;> rfl
      | _ => rfl

theorem read_congr : t'.read p = t.read p := by
  unfold read
  rw [resolve_congr h]
  cases hplace : t.resolve p with
  | ok place =>
      dsimp only [bind, Except.bind]
      rw [node?_congr h hplace]
  | error e => rfl

/-- **The text at the path is the same in both trees**, and so is the reason if there is none. -/
theorem readText_congr (encoding : String) : t'.readText p encoding = t.readText p encoding := by
  unfold readText
  rw [read_congr h]

/-- **A model is read alike in both trees.** -/
theorem readModelFile_congr (encoding : String) :
    readModelFile t' p encoding = readModelFile t p encoding := by
  have hcause : readCause? t' p encoding = readCause? t p encoding := by
    funext f
    unfold readCause?
    rw [read_congr h]
  unfold readModelFile
  rw [exists?_congr h, readText_congr h, hcause]

end Along

/-! ## 2. Making folders -/

/-- The path is on the way to another one: it is the other one or begins it. -/
def Begins (q p : Path) : Prop := q.root = p.root ∧ q.components <+: p.components

theorem Begins.visits {t u : FileTree} {p q : Path} (h : Begins q p)
    (hstart : u.workingFolder = t.workingFolder) : t.Visits p (u.target q) := by
  refine ⟨q.components, h.2, ?_⟩
  rw [target_congr hstart]
  unfold target origin Path.isAbsolute
  rw [h.1]

/-- **Making a folder adds folders on the way to it only.** -/
theorem makeFolder_changesAt (t : FileTree) (p : Path) :
    ChangesAt (fun _ => False) (t.Visits p) t (t.makeFolder p).1 := by
  refine makeFolderWithin_induct
    (P := fun u q => u.workingFolder = t.workingFolder ∧ Begins q p)
    (I := ChangesAt (fun _ => False) (t.Visits p)) .refl .trans ?_ ?_ ?_ _ t p
    ⟨rfl, rfl, List.prefix_refl _⟩
  · exact fun hP hchange => ⟨hchange.start_eq.trans hP.1, hP.2⟩
  · exact fun hP => ⟨hP.1, hP.2.1, (List.dropLast_prefix _).trans hP.2.2⟩
  · exact fun hP hmade => makeOne_changesAt hmade (Or.inl (hP.2.visits hP.1))

end FileTree

open FileTree

namespace Directory

variable {root : Path} {encoding : String} {t t' : FileTree} {d d' : Directory}
  {files : List GeneratedFile} {p : Path}

/-! ## 3. What files change -/

/-- One of the files is written to the place. -/
def Writes (root : Path) (t : FileTree) (files : List GeneratedFile) (place : Place) : Prop :=
  ∃ f ∈ files, place = placeOf root t f.path

/-- The place is on the way to one of the files: a folder is made there if there is nothing. -/
def Makes (root : Path) (t : FileTree) (files : List GeneratedFile) (place : Place) : Prop :=
  ∃ f ∈ files, t.Visits (root.append (Path.ofString f.path)).parent place

/-- **A file changes its place and adds folders on the way to it**, whether it is taken or not. -/
theorem directorySink_changesAt (d : Directory) (f : GeneratedFile) :
    ChangesAt (· = placeOf root d.tree f.path)
      (d.tree.Visits (root.append (Path.ofString f.path)).parent) d.tree
      (directorySink root encoding d f).1.tree := by
  have hmade : ChangesAt (· = placeOf root d.tree f.path)
      (d.tree.Visits (root.append (Path.ofString f.path)).parent) d.tree
      (d.tree.makeFolder (root.append (Path.ofString f.path)).parent).1 :=
    (d.tree.makeFolder_changesAt _).mono False.elim id
  unfold directorySink
  dsimp only
  split
  · rename_i made e hfolder
    rw [hfolder] at hmade
    exact hmade
  · rename_i made hfolder
    rw [hfolder] at hmade
    have hwrote : ChangesAt (· = placeOf root d.tree f.path)
        (d.tree.Visits (root.append (Path.ofString f.path)).parent) made
        (made.writeText (root.append (Path.ofString f.path)) encoding f.content).1 :=
      made.writeText_changesAt (target_congr hmade.start_eq _) encoding f.content
    split
    · rename_i tree e hwrite
      rw [hwrite] at hwrote
      exact hmade.trans hwrote
    · rename_i tree hwrite
      rw [hwrite] at hwrote
      exact hmade.trans hwrote

/-- What files leave behind: only their places have changed and folders were added on the way to them,
    and every file is there unless a later one has its place. -/
structure Leaves (root : Path) (encoding : String) (files : List GeneratedFile)
    (t t' : FileTree) : Prop where
  changes : ChangesAt (Writes root t files) (Makes root t files) t t'
  last : ∀ before f after, files = before ++ f :: after →
    ¬ Writes root t after (placeOf root t f.path) →
      ∃ bytes, Encoded encoding f.content bytes ∧
        t'.node? (placeOf root t f.path) = some (.file bytes)

/-- Without files nothing is left behind. -/
theorem Leaves.none (t : FileTree) : Leaves root encoding [] t t where
  changes := .refl t
  last before f after h := by cases before <;> cases h

theorem changesAt_of_takes : ∀ {files : List GeneratedFile} {d d' : Directory},
    (directorySink root encoding).Takes d files d' →
      ChangesAt (Writes root d.tree files) (Makes root d.tree files) d.tree d'.tree
  | [], _, _, h => by
      cases h
      exact .refl _
  | f :: rest, d, d', h => by
      obtain ⟨next, hf, hrest⟩ := h
      have hfirst : ChangesAt (· = placeOf root d.tree f.path)
          (d.tree.Visits (root.append (Path.ofString f.path)).parent) d.tree
          (directorySink root encoding d f).1.tree := directorySink_changesAt d f
      rw [hf] at hfirst
      refine (hfirst.mono ?_ ?_).trans ((changesAt_of_takes hrest).mono ?_ ?_)
      · rintro q rfl
        exact ⟨f, List.mem_cons_self, rfl⟩
      · exact fun hq => ⟨f, List.mem_cons_self, hq⟩
      · rintro q ⟨g, hg, rfl⟩
        exact ⟨g, List.mem_cons_of_mem f hg, placeOf_eq hfirst.start_eq g.path⟩
      · rintro q ⟨g, hg, hq⟩
        exact ⟨g, List.mem_cons_of_mem f hg, (visits_congr hfirst.start_eq).mp hq⟩

/-- **Files that are taken leave behind what they say.** -/
theorem leaves_of_takes (h : (directorySink root encoding).Takes d files d') :
    Leaves root encoding files d.tree d'.tree where
  changes := changesAt_of_takes h
  last before f after hfiles hlast := by
    subst hfiles
    obtain ⟨bytes, hbytes, hplace⟩ := holds_of_takes h fun y hy hsame => hlast ⟨y, hy, hsame⟩
    rw [placeOf_eq (workingFolder_of_takes h)] at hplace
    exact ⟨bytes, hbytes, hplace⟩

/-! ## 4. What files do not touch -/

/-- No place the path passes is changed: where there is no folder, no file is written, and where there
    is nothing, no folder is made. -/
def Untouched (root : Path) (t : FileTree) (files : List GeneratedFile) (p : Path) : Prop :=
  ∀ place, t.Visits p place → t.node? place ≠ some .folder →
    ¬ Writes root t files place ∧ (t.node? place = none → ¬ Makes root t files place)

/-- With fewer files the path is untouched all the more. -/
theorem Untouched.of_subset {fewer : List GeneratedFile} (h : Untouched root t files p)
    (hsub : fewer ⊆ files) : Untouched root t fewer p := by
  intro place hplace hnode
  obtain ⟨hwrites, hmakes⟩ := h place hplace hnode
  exact ⟨fun ⟨f, hf, heq⟩ => hwrites ⟨f, hsub hf, heq⟩,
    fun hnone ⟨f, hf, hq⟩ => hmakes hnone ⟨f, hsub hf, hq⟩⟩

/-- **What is read at a path that is untouched stays.** -/
theorem sameAlong_of_takes (h : (directorySink root encoding).Takes d files d')
    (hp : Untouched root d.tree files p) : SameAlong p d.tree d'.tree where
  start_eq := (changesAt_of_takes h).start_eq
  node_eq {place} hplace := by
    have hchanges := changesAt_of_takes h
    by_cases hfolder : d.tree.node? place = some .folder
    · rw [hfolder]
      exact hchanges.folders hfolder
    · obtain ⟨hwrites, hmakes⟩ := hp place hplace hfolder
      exact (hchanges.outside hwrites).resolve_right fun hmade => hmakes hmade.2.1 hmade.1

/-! ## 5. Paths apart from the root -/

/-- The path has nothing to do with the root: where there is no folder, it does not pass a place below
    the root, and where there is nothing, it does not pass a place on the way to the root either. -/
def Apart (root : Path) (t : FileTree) (p : Path) : Prop :=
  ∀ place, t.Visits p place → t.node? place ≠ some .folder →
    ¬ t.target root <+: place ∧ (t.node? place = none → ¬ t.Visits root place)

/-- Before the end of a path that can be followed there are folders. -/
theorem folder_of_visits {t : FileTree} {p : Path} {place last : Place} (h : t.resolve p = .ok last)
    (hplace : t.Visits p place) (hne : t.node? place ≠ some .folder) : place = last := by
  obtain ⟨cs, ⟨rest, hrest⟩, rfl⟩ := hplace
  have hwalk := (resolve_eq_ok_iff.mp h).2.2
  rw [← hrest] at hwalk
  obtain ⟨mid, hmid, hlast⟩ := walk_append hwalk
  rw [← walk_eq_ok hmid] at hne ⊢
  cases rest with
  | nil => exact (Except.ok.inj hlast)
  | cons c rest =>
      obtain ⟨next, hstep, _⟩ := walk_cons_eq_ok.mp hlast
      exact absurd (folder_of_step hstep) hne

/-- **A file that exists is apart exactly if it does not lie below the root.** -/
theorem apart_iff_of_isFile (h : t.isFile p = true) :
    Apart root t p ↔ ¬ t.target root <+: t.target p := by
  obtain ⟨place, content, hplace, hnode⟩ : ∃ place content, t.resolve p = .ok place ∧
      t.node? place = some (.file content) := by
    unfold isFile at? at h
    split at h
    · rename_i content heq
      split at heq
      · rename_i place hplace
        exact ⟨place, content, hplace, heq⟩
      · cases heq
    · cases h
  obtain rfl := resolve_eq_ok hplace
  constructor
  · intro hapart
    exact (hapart _ (t.visits_target p) (by rw [hnode]; exact fun hfolder => by cases hfolder)).1
  · intro hbelow q hq hfolder
    obtain rfl := folder_of_visits hplace hq hfolder
    exact ⟨hbelow, fun hnone => by cases hnone.symm.trans hnode⟩

/-- The output path of a file that descends goes down from the root. -/
theorem under_append {path : String} (h : (Path.ofString path).Descends) :
    Under root (root.append (Path.ofString path)) := by
  refine ⟨_, h.2, ?_⟩
  unfold Path.append
  rw [Path.root_of_relative h.1]

/-- On the way to a path that goes down from the root, one is on the way to the root or below it. -/
theorem Under.visits {q : Path} {place : Place} (h : Under root q) (hplace : t.Visits q.parent place) :
    t.Visits root place ∨ t.target root <+: place := by
  obtain ⟨ds, hds, rfl⟩ := h
  obtain ⟨cs, hcs, rfl⟩ := hplace
  have hcs : cs <+: root.components ++ ds := hcs.trans (List.dropLast_prefix _)
  rcases List.prefix_or_prefix_of_prefix hcs (List.prefix_append _ _) with hbefore | ⟨es, rfl⟩
  · exact Or.inl ⟨cs, hbefore, rfl⟩
  · right
    have hes : ".." ∉ es := fun hmem =>
      hds ((List.prefix_append_right_inj _).mp hcs |>.subset hmem)
    refine ⟨es, ?_⟩
    show _ = (root.components ++ es).foldl enter (t.origin root)
    rw [List.foldl_append, foldl_enter_names _ hes]
    rfl

/-- **Files below the root touch no path that is apart from it.** -/
theorem untouched_of_apart (hfiles : ∀ f ∈ files, (Path.ofString f.path).Descends)
    (h : Apart root t p) : Untouched root t files p := by
  intro place hplace hnode
  obtain ⟨hbelow, hway⟩ := h place hplace hnode
  constructor
  · rintro ⟨f, hf, rfl⟩
    exact hbelow (target_under (under_append (hfiles f hf)))
  · rintro hnone ⟨f, hf, hq⟩
    exact (Under.visits (under_append (hfiles f hf)) hq).elim (hway hnone) hbelow

end Directory

end DomainGen
