import DomainGen.Proofs.FileTree.Confinement
import DomainGen.Proofs.Path.Normal
import DomainGen.Proofs.Sink.Acceptance

/-!
# Files in a directory

A directory sink writes every file to the place of its path below a root. Two files that have one
place cannot both be there: the one that came later is.

* `Directory.placeOf` : the place of an output path; `placeOf_eq_iff` : **for paths that stay below
  the root, places are equal exactly if the normal forms of the paths are**;
* `Directory.Holds` : a file is there with its text;
* `holds_of_takes` : **every file is there unless a later one has its place**;
* `directorySink_changesBelow` : **a descending path changes nothing outside of the root.**
-/

namespace DomainGen

open FileTree

/-! ## 1. Places of output paths -/

namespace Path

/-- Following components and following their normal form ends at one place. -/
theorem foldl_enter_normalStep (place : Place) (done : List String) (c : String) :
    (normalStep false done c).reverse.foldl enter place =
      enter (done.reverse.foldl enter place) c := by
  by_cases hc : c = ".."
  · subst hc
    cases done with
    | nil => rfl
    | cons d rest =>
        by_cases hd : d = ".."
        · subst hd
          have hstep : normalStep false (".." :: rest) ".." = ".." :: ".." :: rest := rfl
          rw [hstep, List.reverse_cons, List.foldl_append]
          rfl
        · have hstep : normalStep false (d :: rest) ".." = rest := if_neg hd
          rw [hstep, List.reverse_cons, List.foldl_append]
          show _ = enter (enter (rest.reverse.foldl enter place) d) ".."
          have hdown : enter (rest.reverse.foldl enter place) d =
              rest.reverse.foldl enter place ++ [d] := if_neg hd
          have hup : ∀ q : Place, enter q ".." = q.dropLast := fun q => if_pos rfl
          rw [hdown, hup, List.dropLast_concat]
  · rw [normalStep_name hc, List.reverse_cons, List.foldl_append]
    rfl

theorem foldl_enter_normal (place : Place) : ∀ cs done : List String,
    (cs.foldl (normalStep false) done).reverse.foldl enter place =
      cs.foldl enter (done.reverse.foldl enter place)
  | [], done => rfl
  | c :: rest, done => by
      rw [List.foldl_cons, foldl_enter_normal place rest, foldl_enter_normalStep]
      rfl

/-- The path is relative and its normal form does not climb. -/
def StaysBelow (p : Path) : Prop :=
  p.isAbsolute = false ∧ ".." ∉ p.normalize.components

instance (p : Path) : Decidable p.StaysBelow := inferInstanceAs (Decidable (_ ∧ _))

/-- The components of a path that stays below a place end at the components of its normal form. -/
theorem StaysBelow.foldl_enter {p : Path} (h : p.StaysBelow) (place : Place) :
    p.components.foldl enter place = place ++ p.normalize.components := by
  have hnormal := foldl_enter_normal place p.components []
  have hcomponents : (p.components.foldl (normalStep false) []).reverse =
      p.normalize.components := by
    unfold normalize
    rw [h.1]
  rw [hcomponents, foldl_enter_names place h.2] at hnormal
  exact hnormal.symm

end Path

namespace Directory

/-- The place of an output path below a root. -/
def placeOf (root : Path) (t : FileTree) (path : String) : Place :=
  t.target (root.append (Path.ofString path))

theorem placeOf_staysBelow {root : Path} {t : FileTree} {path : String}
    (h : (Path.ofString path).StaysBelow) :
    placeOf root t path = t.target root ++ (Path.ofString path).normalize.components := by
  have happend : root.append (Path.ofString path) =
      ⟨root.root, root.components ++ (Path.ofString path).components⟩ := by
    unfold Path.append
    rw [Path.root_of_relative h.1]
  unfold placeOf
  rw [happend]
  show (root.components ++ (Path.ofString path).components).foldl enter (t.origin root) = _
  rw [List.foldl_append]
  exact h.foldl_enter _

/-- **Paths that stay below the root have one place exactly if they have one normal form.** -/
theorem placeOf_eq_iff {root : Path} {t : FileTree} {path other : String}
    (h : (Path.ofString path).StaysBelow) (ho : (Path.ofString other).StaysBelow) :
    placeOf root t path = placeOf root t other ↔
      Path.normalText path = Path.normalText other := by
  rw [placeOf_staysBelow h, placeOf_staysBelow ho, Path.normalText_eq_iff]
  constructor
  · intro heq
    have hcomponents := List.append_cancel_left heq
    have hroot : (Path.ofString path).normalize.root = (Path.ofString other).normalize.root :=
      (Path.root_of_relative h.1).trans (Path.root_of_relative ho.1).symm
    exact (Path.mk.injEq _ _ _ _).mpr ⟨hroot, hcomponents⟩
  · intro heq
    rw [heq]

/-! ## 2. What is there -/

/-- A file stands at its place with its text. -/
def Holds (root : Path) (encoding : String) (d : Directory) (f : GeneratedFile) : Prop :=
  ∃ bytes, Encoded encoding f.content bytes ∧
    d.tree.node? (placeOf root d.tree f.path) = some (.file bytes)

section Writing

variable {root : Path} {encoding : String} {d d' : Directory}

theorem placeOf_eq (h : d'.tree.workingFolder = d.tree.workingFolder) (path : String) :
    placeOf root d'.tree path = placeOf root d.tree path := target_congr h _

/-- **A file that is accepted is there**, and what has another place stays. -/
theorem directorySink_accepted {f : GeneratedFile}
    (h : directorySink root encoding d f = (d', none)) :
    d'.tree.workingFolder = d.tree.workingFolder ∧ Holds root encoding d' f ∧
      ∀ {place n}, place ≠ placeOf root d.tree f.path → d.tree.node? place = some n →
        d'.tree.node? place = some n := by
  unfold directorySink at h
  dsimp only at h
  have hgrows := d.tree.makeFolder_grows (root.append (Path.ofString f.path)).parent
  split at h
  · cases h
  · rename_i made hmade
    rw [hmade] at hgrows
    split at h
    · cases h
    · rename_i tree hwrite
      cases h
      obtain ⟨bytes, hbytes, hwrote⟩ := writeText_eq_none hwrite
      refine ⟨hwrote.start_eq.trans hgrows.start_eq, ⟨bytes, hbytes, ?_⟩, ?_⟩
      · have hplace := target_congr hwrote.start_eq (root.append (Path.ofString f.path))
        show tree.node? (tree.target _) = _
        rw [hplace]
        exact hwrote.written
      · intro place n hplace hn
        have hother : place ≠ made.target (root.append (Path.ofString f.path)) := by
          rw [target_congr hgrows.start_eq]
          exact hplace
        show tree.node? place = _
        rw [hwrote.kept hother]
        exact hgrows.kept hn

theorem workingFolder_of_takes : ∀ {files : List GeneratedFile} {d d' : Directory},
    (directorySink root encoding).Takes d files d' →
    d'.tree.workingFolder = d.tree.workingFolder
  | [], _, _, h => by
      cases h
      rfl
  | f :: rest, _, _, h => by
      obtain ⟨d₁, hf, hrest⟩ := h
      exact (workingFolder_of_takes hrest).trans (directorySink_accepted hf).1

/-- What stands at a place stays while other places are written to. -/
theorem kept_of_takes {place : Place} {n : Node} : ∀ {files : List GeneratedFile}
    {d d' : Directory}, (directorySink root encoding).Takes d files d' →
    (∀ f ∈ files, place ≠ placeOf root d.tree f.path) →
    d.tree.node? place = some n → d'.tree.node? place = some n
  | [], _, _, h, _, hn => by
      cases h
      exact hn
  | f :: rest, _, _, h, hplace, hn => by
      obtain ⟨d₁, hf, hrest⟩ := h
      obtain ⟨hstart, _, hkept⟩ := directorySink_accepted hf
      refine kept_of_takes hrest (fun y hy => ?_) (hkept (hplace f List.mem_cons_self) hn)
      rw [placeOf_eq hstart]
      exact hplace y (List.mem_cons_of_mem f hy)

/-- **Every file that was taken is there, unless a later one has its place.** -/
theorem holds_of_takes : ∀ {before : List GeneratedFile} {f : GeneratedFile}
    {after : List GeneratedFile} {d d' : Directory},
    (directorySink root encoding).Takes d (before ++ f :: after) d' →
    (∀ y ∈ after, placeOf root d.tree f.path ≠ placeOf root d.tree y.path) →
    Holds root encoding d' f
  | [], f, after, d, d', h, hafter => by
      obtain ⟨d₁, hf, hrest⟩ := h
      obtain ⟨hstart, ⟨bytes, hbytes, hplace⟩, _⟩ := directorySink_accepted hf
      refine ⟨bytes, hbytes, ?_⟩
      rw [placeOf_eq (workingFolder_of_takes hrest)]
      refine kept_of_takes hrest (fun y hy => ?_) hplace
      rw [placeOf_eq hstart, placeOf_eq hstart]
      exact hafter y hy
  | x :: before, f, after, d, d', h, hafter => by
      obtain ⟨d₁, hx, hrest⟩ := h
      have hstart := (directorySink_accepted hx).1
      refine holds_of_takes hrest fun y hy => ?_
      rw [placeOf_eq hstart, placeOf_eq hstart]
      exact hafter y hy

end Writing

/-! ## 3. What is outside -/

/-- **A file with a descending path changes nothing outside of the root, whether it is taken or
    not.** If the root is not there yet, folders are made on the way to it. -/
theorem directorySink_changesBelow {root : Path} {encoding : String} {d : Directory}
    {f : GeneratedFile} (h : (Path.ofString f.path).Descends) :
    ChangesBelow (d.tree.target root) (¬ d.tree.isFolder root = true) d.tree
      (directorySink root encoding d f).1.tree := by
  have happend : root.append (Path.ofString f.path) =
      ⟨root.root, root.components ++ (Path.ofString f.path).components⟩ := by
    unfold Path.append
    rw [Path.root_of_relative h.1]
  have hunder : Under root (root.append (Path.ofString f.path)) := ⟨_, h.2, happend⟩
  have hmade : ChangesBelow (d.tree.target root) (¬ d.tree.isFolder root = true) d.tree
      (d.tree.makeFolder (root.append (Path.ofString f.path)).parent).1 :=
    d.tree.makeFolder_changesBelow fun hfolder => hunder.parent (leads_of_isFolder hfolder)
  unfold directorySink
  dsimp only
  split
  · rename_i made e hfolder
    rw [hfolder] at hmade
    exact hmade
  · rename_i made hfolder
    rw [hfolder] at hmade
    have hwrote : ChangesBelow (made.target root) (¬ d.tree.isFolder root = true) made
        (made.writeText (root.append (Path.ofString f.path)) encoding f.content).1 :=
      made.writeText_changesBelow hunder encoding f.content
    rw [target_congr hmade.start_eq] at hwrote
    split
    · rename_i written e hwrite
      rw [hwrite] at hwrote
      exact hmade.trans hwrote
    · rename_i written hwrite
      rw [hwrite] at hwrote
      exact hmade.trans hwrote

/-- What one file more changes is added to what was changed before it. -/
theorem directorySink_changesBelow_trans {root : Path} {encoding : String} {t : FileTree}
    {d : Directory} {f : GeneratedFile}
    (hd : ChangesBelow (t.target root) (¬ t.isFolder root = true) t d.tree)
    (h : (Path.ofString f.path).Descends) :
    ChangesBelow (t.target root) (¬ t.isFolder root = true) t
      (directorySink root encoding d f).1.tree := by
  have hstep : ChangesBelow (d.tree.target root) (¬ d.tree.isFolder root = true) d.tree
      (directorySink root encoding d f).1.tree := directorySink_changesBelow h
  rw [target_congr hd.start_eq] at hstep
  refine hd.trans (hstep.mono id fun hmissing hroot => hmissing ?_)
  exact isFolder_kept hd.folders hd.start_eq hroot

end Directory

end DomainGen
