import DomainGen.Command.Input
import DomainGen.Proofs.FileTree.Length
import Mathlib.Data.List.Lex
import Mathlib.Data.List.Nodup
import Mathlib.Data.String.Basic

/-!
# Folders among the arguments

An argument that is a folder stands for the model files below it. What counts as a model file is told by
the name alone, so a folder with such a name is listed like a file.

* `componentsLE_iff` : components are compared in the order of lists of texts;
* `modelPathsBelow_increasing` : **what a folder stands for is in increasing order**, each path once;
* `Below`, `mem_modelPathsBelow` : **it is what lies below the folder and has the name of a model file**;
* `expansion`, `expandPaths_eq_ok`, `expandPaths_eq_error` : arguments are expanded one after the other,
  unless one of them cannot be looked at;
* `expandPaths_exact` : all of it together.
-/

namespace DomainGen.Command

open Text

variable {tree : FileTree} {folder p q : Path} {place : Place}

/-! ## 1. The order of paths -/

/-- **Components are compared in the order of lists of texts.** -/
theorem componentsLE_iff : ∀ {as bs : List String}, componentsLE as bs = true ↔ as ≤ bs
  | [], bs => ⟨fun _ => not_lt.mp (List.not_lt_nil bs), fun _ => rfl⟩
  | a :: as, [] => by
      constructor
      · intro h
        cases h
      · exact fun h => absurd (List.nil_lt_cons a as) (not_lt.mpr h)
  | a :: as, b :: bs => by
      unfold componentsLE
      rw [← not_lt, List.cons_lt_cons_iff]
      by_cases hab : a = b
      · subst hab
        rw [if_pos (beq_self_eq_true a), componentsLE_iff, ← not_lt]
        constructor
        · rintro h (hlt | ⟨_, hlt⟩)
          · exact lt_irrefl a hlt
          · exact h hlt
        · exact fun h hlt => h (.inr ⟨rfl, hlt⟩)
      · rw [if_neg fun h => hab (beq_iff_eq.mp h), decide_eq_true_iff]
        constructor
        · rintro h (hlt | ⟨heq, _⟩)
          · exact lt_asymm h hlt
          · exact hab heq.symm
        · exact fun h => (lt_or_gt_of_ne hab).resolve_right fun hlt => h (.inl hlt)

/-! ## 2. What lies below a folder -/

/-- Something lies below a place, with some components from there on. -/
def Below (t : FileTree) (place : Place) (way : List String) (n : Node) : Prop :=
  way ≠ [] ∧ (place ++ way, n) ∈ t.nodes

/-- Is it the name of a model file? -/
def isModelName (name : String) : Bool := modelSuffixes.contains (lowerString (suffixOf name))

/-- The path of something below a folder. -/
def pathBelow (folder : Path) (way : List String) : Path := folder.append ⟨.relative, way⟩

theorem pathBelow_injective (folder : Path) : Function.Injective (pathBelow folder) := by
  intro a b h
  exact List.append_cancel_left (congrArg Path.components h)

/-- What counts is the last name on the way. -/
theorem isModelPath_pathBelow {way : List String} (h : way ≠ []) :
    isModelPath (pathBelow folder way) = isModelName (way.getLast h) := by
  unfold isModelPath isModelName Path.suffix Path.name pathBelow Path.append
  dsimp only
  rw [List.getLast?_append_of_ne_nil _ h, List.getLast?_eq_some_getLast h]
  rfl

/-- What is found below a place lies below it. -/
theorem mem_below {t : FileTree} {way : List String} {n : Node} :
    (way, n) ∈ t.below place ↔ Below t place way n := by
  unfold FileTree.below Below
  rw [List.mem_filterMap]
  constructor
  · rintro ⟨⟨q, m⟩, hmem, h⟩
    dsimp only at h
    split at h
    · rename_i hcond
      obtain ⟨hpre, hlen⟩ := Bool.and_eq_true_iff.mp hcond
      obtain ⟨rest, rfl⟩ := List.isPrefixOf_iff_prefix.mp hpre
      rw [List.drop_left] at h
      cases h
      refine ⟨?_, hmem⟩
      rintro rfl
      rw [List.append_nil] at hlen
      exact bne_iff_ne.mp hlen rfl
    · cases h
  · rintro ⟨hway, hmem⟩
    refine ⟨_, hmem, ?_⟩
    dsimp only
    rw [if_pos, List.drop_left]
    refine Bool.and_eq_true_iff.mpr ⟨List.isPrefixOf_iff_prefix.mpr ⟨way, rfl⟩, bne_iff_ne.mpr ?_⟩
    rw [List.length_append]
    have hpos := List.length_pos_iff.mpr hway
    omega

/-- What is found below a place is found once. -/
theorem nodup_below {t : FileTree} (h : (t.nodes.map (·.1)).Nodup) (place : Place) :
    ((t.below place).map (·.1)).Nodup := by
  have hways : (t.below place).map (·.1) = (t.nodes.map (·.1)).filterMap fun q =>
      if place.isPrefixOf q && q.length != place.length then some (q.drop place.length) else none := by
    unfold FileTree.below
    rw [List.map_filterMap, List.filterMap_map]
    refine List.filterMap_congr fun x _ => ?_
    dsimp only [Function.comp_apply]
    split <;> rfl
  rw [hways]
  refine h.filterMap fun q q' way hq hq' => ?_
  have hplace : ∀ {q}, (way ∈ if place.isPrefixOf q && q.length != place.length then
      some (q.drop place.length) else none) → q = place ++ way := by
    intro q hq
    split at hq
    · rename_i hcond
      obtain ⟨rest, rfl⟩ := List.isPrefixOf_iff_prefix.mp (Bool.and_eq_true_iff.mp hcond).1
      rw [List.drop_left] at hq
      cases hq
      rfl
    · cases hq
  rw [hplace hq, hplace hq']

/-! ## 3. What a folder stands for -/

/-- The paths below a folder before they are put in order. -/
theorem modelPathsBelow_eq (h : tree.resolve folder = .ok place) : modelPathsBelow tree folder =
    ((((tree.below place).map (·.1)).map (pathBelow folder)).filter isModelPath).mergeSort
      fun p q => componentsLE p.components q.components := by
  unfold modelPathsBelow
  rw [h, List.map_map]
  rfl

/-- **A folder stands for what lies below it and has the name of a model file.** -/
theorem mem_modelPathsBelow (h : tree.resolve folder = .ok place) :
    q ∈ modelPathsBelow tree folder ↔ ∃ way n, ∃ hway : way ≠ [], Below tree place way n ∧
      isModelName (way.getLast hway) = true ∧ q = pathBelow folder way := by
  rw [modelPathsBelow_eq h, List.mem_mergeSort, List.mem_filter, List.map_map, List.mem_map]
  constructor
  · rintro ⟨⟨⟨way, n⟩, hmem, rfl⟩, hmodel⟩
    have hbelow := mem_below.mp hmem
    exact ⟨way, n, hbelow.1, hbelow, (isModelPath_pathBelow hbelow.1).symm.trans hmodel, rfl⟩
  · rintro ⟨way, n, hway, hbelow, hmodel, rfl⟩
    exact ⟨⟨(way, n), mem_below.mpr hbelow, rfl⟩, (isModelPath_pathBelow hway).trans hmodel⟩

/-- **It is listed in increasing order**, each path once. -/
theorem modelPathsBelow_increasing (htree : (tree.nodes.map (·.1)).Nodup)
    (h : tree.resolve folder = .ok place) :
    (modelPathsBelow tree folder).Pairwise fun p q => p.components < q.components := by
  have hroot : ∀ p ∈ modelPathsBelow tree folder, p.root = folder.root := by
    intro p hp
    obtain ⟨_, _, _, _, _, rfl⟩ := (mem_modelPathsBelow h).mp hp
    rfl
  have hsorted : (modelPathsBelow tree folder).Pairwise fun p q =>
      componentsLE p.components q.components = true := by
    rw [modelPathsBelow_eq h]
    refine List.pairwise_mergeSort (fun a b c hab hbc => ?_) (fun a b => ?_) _
    · exact componentsLE_iff.mpr ((componentsLE_iff.mp hab).trans (componentsLE_iff.mp hbc))
    · rw [Bool.or_eq_true_iff, componentsLE_iff, componentsLE_iff]
      exact le_total _ _
  have honce : (modelPathsBelow tree folder).Nodup := by
    rw [modelPathsBelow_eq h, (List.mergeSort_perm _ _).nodup_iff]
    exact ((nodup_below htree place).map (pathBelow_injective folder)).filter _
  refine (hsorted.and honce).imp_of_mem fun {p q} hp hq hboth => ?_
  refine lt_of_le_of_ne (componentsLE_iff.mp hboth.1) fun hsame => hboth.2 ?_
  cases p
  cases q
  cases hsame
  cases (hroot _ hp).trans (hroot _ hq).symm
  rfl

/-! ## 4. Main result -/

/-- What an argument stands for: itself, or the model files below it. -/
def expansion (tree : FileTree) (p : Path) : List Path :=
  if tree.isFolder p then modelPathsBelow tree p else [p]

theorem expandPaths_cons (file : String) (rest : List String) :
    expandPaths tree (file :: rest) = tree.holdsFolder (Path.ofString file) >>= fun there =>
      (expandPaths tree rest).map fun others =>
        (if there = true then modelPathsBelow tree (Path.ofString file) else [Path.ofString file])
          ++ others := by
  rw [expandPaths]
  cases tree.holdsFolder (Path.ofString file) with
  | error f => rfl
  | ok there =>
      cases expandPaths tree rest <;> rfl

/-- **Arguments are expanded one after the other.** -/
theorem expandPaths_eq_ok : ∀ {files : List String} {paths : List Path},
    expandPaths tree files = .ok paths ↔ (∀ file ∈ files, ¬ tree.Overruns (Path.ofString file)) ∧
      paths = files.flatMap fun file => expansion tree (Path.ofString file)
  | [], paths => by
      constructor
      · intro h
        cases h
        exact ⟨fun _ hfile => absurd hfile List.not_mem_nil, rfl⟩
      · rintro ⟨_, rfl⟩
        rfl
  | file :: rest, paths => by
      rw [expandPaths_cons, except_bind_eq_ok, List.forall_mem_cons]
      constructor
      · rintro ⟨there, hthere, h⟩
        obtain ⟨others, hothers, rfl⟩ := except_map_eq_ok.mp h
        obtain ⟨hall, rfl⟩ := expandPaths_eq_ok.mp hothers
        have hshort : ¬ tree.Overruns (Path.ofString file) := by
          intro hlong
          cases hthere.symm.trans (FileTree.holdsFolder_eq_error.mpr ⟨rfl, hlong⟩)
        cases (FileTree.holdsFolder_of_not_overruns hshort).symm.trans hthere
        exact ⟨⟨hshort, hall⟩, rfl⟩
      · rintro ⟨⟨hshort, hall⟩, rfl⟩
        exact ⟨_, FileTree.holdsFolder_of_not_overruns hshort, except_map_eq_ok.mpr
          ⟨_, expandPaths_eq_ok.mpr ⟨hall, rfl⟩, rfl⟩⟩

/-- **There is no list of paths if an argument cannot be looked at.** -/
theorem expandPaths_eq_error {f : Fault} : ∀ {files : List String},
    expandPaths tree files = .error f ↔
      f = .system .nameTooLong ∧ ∃ file ∈ files, tree.Overruns (Path.ofString file)
  | [] => by
      constructor
      · intro h
        cases h
      · rintro ⟨_, _, h, _⟩
        cases h
  | file :: rest => by
      rw [expandPaths_cons, except_bind_eq_error, FileTree.holdsFolder_eq_error, List.exists_mem_cons_iff]
      simp only [except_map_eq_error]
      constructor
      · rintro (⟨hf, hlong⟩ | ⟨_, _, h⟩)
        · exact ⟨hf, .inl hlong⟩
        · obtain ⟨hf, hrest⟩ := expandPaths_eq_error.mp h
          exact ⟨hf, .inr hrest⟩
      · rintro ⟨hf, hsome⟩
        by_cases hlong : tree.Overruns (Path.ofString file)
        · exact .inl ⟨hf, hlong⟩
        · exact .inr ⟨_, FileTree.holdsFolder_of_not_overruns hlong,
            expandPaths_eq_error.mpr ⟨hf, hsome.resolve_left hlong⟩⟩

/-- **Arguments stand for themselves or, where they are folders, for what lies below them at any depth
    and has the name of a model file**, in increasing order and each path once. These are the files below
    exactly if no folder below has such a name; one that has is listed as if it were a file. Nothing is
    listed if an argument cannot be looked at. -/
theorem expandPaths_exact (htree : (tree.nodes.map (·.1)).Nodup) (files : List String) :
    (∀ f, expandPaths tree files = .error f ↔
      f = .system .nameTooLong ∧ ∃ file ∈ files, tree.Overruns (Path.ofString file)) ∧
    (∀ paths, expandPaths tree files = .ok paths ↔
      (∀ file ∈ files, ¬ tree.Overruns (Path.ofString file)) ∧
        paths = files.flatMap fun file => expansion tree (Path.ofString file)) ∧
    ∀ p, (tree.isFolder p = false → expansion tree p = [p]) ∧
      ∀ place, tree.resolve p = .ok place → tree.node? place = some .folder →
        ((expansion tree p).Pairwise fun q r => q.components < r.components) ∧
        (∀ q, q ∈ expansion tree p ↔ ∃ way n, ∃ hway : way ≠ [], Below tree place way n ∧
          isModelName (way.getLast hway) = true ∧ q = pathBelow p way) ∧
        ((∀ q, q ∈ expansion tree p ↔ ∃ way content, ∃ hway : way ≠ [],
            Below tree place way (.file content) ∧ isModelName (way.getLast hway) = true ∧
              q = pathBelow p way) ↔
          ∀ way, ∀ hway : way ≠ [], Below tree place way .folder →
            isModelName (way.getLast hway) = false) := by
  refine ⟨fun f => expandPaths_eq_error, fun paths => expandPaths_eq_ok, fun p => ⟨fun hnot => ?_,
    fun place hplace hfolder => ?_⟩⟩
  · unfold expansion
    rw [hnot]
    rfl
  · have hexpansion : expansion tree p = modelPathsBelow tree p :=
      if_pos (FileTree.isFolder_iff.mpr ⟨place, hplace, hfolder⟩)
    rw [hexpansion]
    have hmem := fun q => mem_modelPathsBelow (q := q) hplace
    refine ⟨modelPathsBelow_increasing htree hplace, hmem, ?_⟩
    constructor
    · intro hfiles way hway hbelow
      rw [Bool.eq_false_iff]
      intro hmodel
      have hlisted := (hmem _).mpr ⟨way, .folder, hway, hbelow, hmodel, rfl⟩
      obtain ⟨way', content, _, hfile, _, heq⟩ := (hfiles _).mp hlisted
      cases pathBelow_injective p heq
      have hkeys : ∀ {n m}, (place ++ way, n) ∈ tree.nodes → (place ++ way, m) ∈ tree.nodes → n = m :=
        fun hn hm => (Prod.mk.inj (List.inj_on_of_nodup_map htree hn hm rfl)).2
      cases hkeys hbelow.2 hfile.2
    · intro hnone q
      rw [hmem]
      constructor
      · rintro ⟨way, n, hway, hbelow, hmodel, rfl⟩
        cases n with
        | file content => exact ⟨way, content, hway, hbelow, hmodel, rfl⟩
        | folder => cases hmodel.symm.trans (hnone way hway hbelow)
      · rintro ⟨way, content, hway, hbelow, hmodel, rfl⟩
        exact ⟨way, .file content, hway, hbelow, hmodel, rfl⟩

/-- A folder with a model file, a folder that has the name of one, and a file in that. -/
def namedFolder : FileTree :=
  ⟨[(["m"], .folder), (["m", "a.yaml"], .file []), (["m", "b.yaml"], .folder),
    (["m", "b.yaml", "c.YML"], .file [])], []⟩

/-- A folder with the name of a model file is listed, and cannot be read. -/
theorem expandPaths_namedFolder : ∃ paths, expandPaths namedFolder ["m"] = .ok paths ∧
    ⟨.relative, ["m", "b.yaml"]⟩ ∈ paths ∧
    namedFolder.isFolder ⟨.relative, ["m", "b.yaml"]⟩ = true ∧
    readModelFile namedFolder ⟨.relative, ["m", "b.yaml"]⟩ defaultEncoding =
      .error (.loading (.fileUnreadable "m/b.yaml" (.system .isFolder))) := by
  have hheld : namedFolder.holdsFolder (Path.ofString "m") = .ok true := rfl
  have hplace : namedFolder.resolve (Path.ofString "m") = .ok ["m"] := rfl
  refine ⟨_, expandPaths_eq_ok.mpr ⟨?_, rfl⟩, ?_, rfl, rfl⟩
  · intro file hfile hlong
    obtain rfl := List.mem_singleton.mp hfile
    cases hheld.symm.trans (FileTree.holdsFolder_eq_error.mpr ⟨rfl, hlong⟩)
  · rw [List.flatMap_singleton]
    refine (mem_modelPathsBelow hplace).mpr ⟨["b.yaml"], .folder, List.cons_ne_nil _ _, ?_, ?_, rfl⟩
    · exact ⟨List.cons_ne_nil _ _, by decide⟩
    · decide +kernel

theorem expandPaths_exact_namedFolder : (namedFolder.nodes.map (·.1)).Nodup ∧
    namedFolder.resolve (Path.ofString "m") = .ok ["m"] ∧
    pathBelow (Path.ofString "m") ["b.yaml", "c.YML"] ∈ expansion namedFolder (Path.ofString "m") := by
  have honce : (namedFolder.nodes.map (·.1)).Nodup := by decide
  have hplace : namedFolder.resolve (Path.ofString "m") = .ok ["m"] := by rfl
  obtain ⟨_, _, hall⟩ := expandPaths_exact honce ["m"]
  obtain ⟨_, hmem, _⟩ := (hall (Path.ofString "m")).2 ["m"] hplace rfl
  refine ⟨honce, hplace, (hmem _).mpr ⟨["b.yaml", "c.YML"], .file [], List.cons_ne_nil _ _, ?_, ?_, rfl⟩⟩
  · exact ⟨List.cons_ne_nil _ _, by decide⟩
  · decide +kernel

end DomainGen.Command
