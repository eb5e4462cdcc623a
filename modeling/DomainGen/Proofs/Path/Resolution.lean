import DomainGen.Proofs.Sink.Directory

/-!
# Resolving import specifiers

A specifier in a file is read from the folder the file lies in, and the result is brought into normal
form. The way between two folders is found from where they lie in the file system; as long as neither
of them leads above the folder both are named from, that folder does not matter, and following the way
from the one leads to the other.

* `Path.resolve` : what a specifier in a file leads to;
* `wayBetween`, `foldl_wayBetween` : **following the way from one folder to another leads to the
  other**;
* `ofString_relativeFolder` : the way as a specifier spells it, whatever folder both are named from;
* `resolve_append` : a specifier for a file in a folder, without its extension.
-/

namespace DomainGen

open Text FileTree

namespace Path

/-! ## 1. Parts of a text -/

/-- The components on both sides of a slash. -/
theorem componentsOfChars_concat (s t : List Char) :
    componentsOfChars (s ++ '/' :: t) = componentsOfChars s ++ componentsOfChars t := by
  unfold componentsOfChars
  rw [splitAt_concat, List.map_append, List.filter_append]

/-- A text that is the name of something in a folder. -/
structure IsName (s : String) : Prop where
  component : isComponent s = true
  plain : '/' ∉ s.toList
  down : s ≠ ".."

theorem IsName.of_ne {s : String} (hplain : '/' ∉ s.toList) (h : s ≠ "" ∧ s ≠ "." ∧ s ≠ "..") :
    IsName s := by
  refine ⟨?_, hplain, h.2.2⟩
  unfold isComponent
  rw [Bool.and_eq_true, bne_iff_ne, bne_iff_ne]
  exact ⟨h.1, h.2.1⟩

/-- A name reads as one component. -/
theorem IsName.ofString_eq {s : String} (h : IsName s) : ofString s = ⟨.relative, [s]⟩ := by
  have hproper : (Path.mk .relative [s]).Proper := by
    intro c hc
    rw [List.mem_singleton.mp hc]
    exact ⟨h.component, h.plain⟩
  have htext : (Path.mk .relative [s]).text = s := String.empty_append
  have hread := ofString_text hproper
  rw [htext] at hread
  exact hread

/-- What is put behind a relative text is no root. -/
theorem ofChars_append {s : List Char} (hne : s ≠ []) (h : s.head? ≠ some '/') (t : List Char) :
    PathRoot.ofChars (s ++ t) = .relative := by
  rw [ofChars_eq_relative]
  cases s with
  | nil => exact absurd rfl hne
  | cons c rest => exact h

/-- What stands on both sides of a slash in a relative text. -/
theorem ofString_slash {s : String} (hne : s ≠ "") (h : (ofString s).root = .relative)
    (t : String) :
    ofString (s ++ "/" ++ t) = ⟨.relative, (ofString s).components ++ (ofString t).components⟩ := by
  have hchars : (s ++ "/" ++ t).toList = s.toList ++ '/' :: t.toList := by
    rw [String.toList_append, String.toList_append, List.append_assoc]
    rfl
  have hroot := ofChars_append (mt String.toList_eq_nil_iff.mp hne) (ofChars_eq_relative.mp h)
    ('/' :: t.toList)
  rw [ofString_toList, hchars, hroot, componentsOfChars_concat]
  rfl

/-- A leading single dot is no component. -/
theorem ofString_dot (s : String) : ofString ("./" ++ s) = ⟨.relative, (ofString s).components⟩ := by
  have hdot : ("." ++ "/" ++ s : String) = "./" ++ s := rfl
  have hne : "." ≠ "" := by decide
  have hroot : (ofString ".").root = .relative := by decide +kernel
  have hread := ofString_slash hne hroot s
  rw [hdot] at hread
  have hnone : (ofString ".").components = [] := by decide +kernel
  rw [hread, hnone, List.nil_append]

theorem text_ne_empty (p : Path) (h : p.Proper) : p.text ≠ "" := by
  intro htext
  have hread := ofString_text h
  rw [htext] at hread
  have hcurrent : ofString "" = current := by decide +kernel
  rw [← hread, hcurrent] at htext
  exact absurd htext (by decide)

/-! ## 2. Ways down and up -/

theorem foldl_normalStep_names {rooted : Bool} : ∀ {cs : List String}, ".." ∉ cs →
    ∀ done, cs.foldl (normalStep rooted) done = cs.reverse ++ done
  | [], _, _ => rfl
  | c :: rest, h, done => by
      have hc : c ≠ ".." := fun e => h (e ▸ List.mem_cons_self)
      have hrest : ".." ∉ rest := fun hm => h (List.mem_cons_of_mem c hm)
      rw [List.foldl_cons, normalStep_name hc, foldl_normalStep_names hrest, List.reverse_cons,
        List.append_assoc, List.singleton_append]

/-- As many double dots as there are folders take them all back. -/
theorem foldl_normalStep_back (rest : List String) : ∀ {done : List String}, ".." ∉ done →
    (done.map fun _ => "..").foldl (normalStep false) (done ++ rest) = rest
  | [], _ => rfl
  | d :: done, h => by
      have hd : d ≠ ".." := fun e => h (e ▸ List.mem_cons_self)
      have hdone : ".." ∉ done := fun hm => h (List.mem_cons_of_mem d hm)
      have hback : normalStep false (d :: (done ++ rest)) ".." = done ++ rest := if_neg hd
      rw [List.map_cons, List.cons_append, List.foldl_cons, hback]
      exact foldl_normalStep_back rest hdone

/-- The components of a normal form are found by following the path step by step. -/
theorem StaysBelow.foldl_normalStep {p : Path} (h : p.StaysBelow) :
    p.components.foldl (normalStep false) [] = p.normalize.components.reverse := by
  unfold normalize
  rw [h.1, List.reverse_reverse]

end Path

/-! ## 3. The way between two folders -/

theorem dropCommon_append : ∀ base start target : List String,
    dropCommon (base ++ start) (base ++ target) = dropCommon start target
  | [], _, _ => rfl
  | b :: base, start, target => by
      rw [List.cons_append, List.cons_append]
      simp only [dropCommon, beq_self_eq_true, if_true]
      exact dropCommon_append base start target

/-- What is dropped from two lists is a common beginning of them. -/
theorem dropCommon_spec : ∀ start target : List String, ∃ common,
    start = common ++ (dropCommon start target).1 ∧ target = common ++ (dropCommon start target).2
  | [], _ => ⟨[], rfl, rfl⟩
  | _ :: _, [] => ⟨[], rfl, rfl⟩
  | a :: start, b :: target => by
      by_cases hab : a = b
      · subst hab
        obtain ⟨common, hstart, htarget⟩ := dropCommon_spec start target
        have hdrop : dropCommon (a :: start) (a :: target) = dropCommon start target := by
          simp only [dropCommon, beq_self_eq_true, if_true]
        rw [hdrop]
        exact ⟨a :: common, congrArg (a :: ·) hstart, congrArg (a :: ·) htarget⟩
      · have hdrop : dropCommon (a :: start) (b :: target) = (a :: start, b :: target) := by
          simp only [dropCommon, beq_iff_eq, hab, if_false]
        rw [hdrop]
        exact ⟨[], rfl, rfl⟩

/-- The components of the way from one folder to another: a double dot for each folder to leave, then
    the folders to enter. -/
def wayBetween (start target : List String) : List String :=
  (dropCommon start target).1.map (fun _ => "..") ++ (dropCommon start target).2

/-- **Following the way from one folder to another leads to the other.** -/
theorem foldl_wayBetween {start target : List String} (hstart : ".." ∉ start)
    (htarget : ".." ∉ target) :
    (wayBetween start target).foldl (Path.normalStep false) start.reverse = target.reverse := by
  obtain ⟨common, hs, ht⟩ := dropCommon_spec start target
  unfold wayBetween
  generalize dropCommon start target = d at hs ht
  have hleave : ".." ∉ d.1.reverse := fun hm =>
    hstart (hs ▸ List.mem_append_right common (List.mem_reverse.mp hm))
  have henter : ".." ∉ d.2 := fun hm => htarget (ht ▸ List.mem_append_right common hm)
  have hdots : d.1.map (fun _ => "..") = d.1.reverse.map (fun _ => "..") := by
    rw [List.map_const', List.map_const', List.length_reverse]
  rw [List.foldl_append, hdots, hs, ht, List.reverse_append, List.reverse_append,
    Path.foldl_normalStep_back _ hleave, Path.foldl_normalStep_names henter]

theorem collapse_eq (cs : List String) : collapse cs = cs.foldl enter [] := by
  have hstep : ∀ (cs done : List String),
      (cs.foldl collapseStep done).reverse = cs.foldl enter done.reverse := by
    intro cs
    induction cs with
    | nil => exact fun done => rfl
    | cons c rest ih =>
        intro done
        rw [List.foldl_cons, List.foldl_cons, ih]
        congr 1
        unfold collapseStep enter
        by_cases hc : c = ".."
        · subst hc
          rw [if_pos rfl, if_pos (beq_self_eq_true _), List.dropLast_reverse]
        · rw [if_neg hc, if_neg (fun h => hc (beq_iff_eq.mp h)), List.reverse_cons]
  exact hstep cs []

/-- A folder that does not climb lies below the one it is named from, wherever that is. -/
theorem locate_below (base : List String) {folder : String}
    (h : (Path.ofString folder).StaysBelow) :
    locate base folder = collapse base ++ (Path.ofString folder).normalize.components := by
  unfold locate
  simp only [h.1, Bool.false_eq_true, if_false]
  rw [collapse_eq, collapse_eq, List.foldl_append]
  exact h.foldl_enter _

/-- The way between two folders is the text of its components. -/
theorem relativePath_eq (base : List String) {start target : String}
    (hs : (Path.ofString start).StaysBelow) (ht : (Path.ofString target).StaysBelow) :
    relativePath base start target = (Path.mk .relative (wayBetween
      (Path.ofString start).normalize.components
      (Path.ofString target).normalize.components)).text := by
  unfold relativePath
  rw [locate_below base hs, locate_below base ht, dropCommon_append]
  unfold wayBetween
  generalize dropCommon _ _ = d
  dsimp only
  cases d.1.map (fun _ => "..") ++ d.2 with
  | nil => rfl
  | cons c rest => exact String.empty_append.symm

theorem proper_wayBetween (start : List String) {target : List String}
    (h : ∀ c ∈ target, Path.isComponent c = true ∧ '/' ∉ c.toList) :
    (Path.mk .relative (wayBetween start target)).Proper := by
  intro c hc
  obtain ⟨common, _, htarget⟩ := dropCommon_spec start target
  rcases List.mem_append.mp hc with hc | hc
  · obtain ⟨_, _, rfl⟩ := List.mem_map.mp hc
    decide
  · refine h c ?_
    rw [htarget]
    exact List.mem_append_right common hc

/-- **The way between two folders as a specifier spells it**, whatever folder both are named from. -/
theorem ofString_relativeFolder (base : List String) {start target : String}
    (hs : (Path.ofString start).StaysBelow) (ht : (Path.ofString target).StaysBelow) :
    relativeFolder base start target ≠ "" ∧
      Path.ofString (relativeFolder base start target) = ⟨.relative, wayBetween
        (Path.ofString start).normalize.components
        (Path.ofString target).normalize.components⟩ := by
  have hproper := proper_wayBetween (Path.ofString start).normalize.components
    (Path.proper_normalize (Path.proper_ofString target))
  have hread := Path.ofString_text hproper
  have hne := Path.text_ne_empty _ hproper
  unfold relativeFolder
  rw [relativePath_eq base hs ht]
  dsimp only
  split
  · exact ⟨hne, hread⟩
  · constructor
    · intro hempty
      have hchars := congrArg String.toList hempty
      rw [String.toList_append] at hchars
      cases hchars
    · rw [Path.ofString_dot, hread]

namespace Path

/-! ## 4. Specifiers -/

/-- What a specifier in a file leads to: it is read from the folder of the file. -/
def resolve (importer specifier : String) : String :=
  normalText (joinPath [(ofString importer).parent.text, specifier])

/-- The folder of a file. -/
theorem parent_joinPath {folder name : String} (hfolder : (ofString folder).root = .relative)
    (hname : IsName name) :
    (ofString (joinPath [folder, name])).parent = ⟨.relative, (ofString folder).components⟩ := by
  rw [ofString_joinPath]
  simp only [List.map_cons, List.map_nil, join, List.foldl_cons, List.foldl_nil, append,
    hname.ofString_eq, hfolder, current, List.nil_append, parent, List.dropLast_concat]

/-- A relative specifier in a file continues the path of the folder of the file. -/
theorem resolve_eq {folder name specifier : String} {steps : List String}
    (hfolder : (ofString folder).root = .relative) (hname : IsName name)
    (hsteps : ofString specifier = ⟨.relative, steps⟩) :
    resolve (joinPath [folder, name]) specifier =
      (Path.mk .relative ((ofString folder).components ++ steps)).normalize.text := by
  have hproper : (Path.mk .relative (ofString folder).components).Proper := proper_ofString folder
  unfold resolve normalText
  rw [parent_joinPath hfolder hname, ofString_joinPath]
  simp only [List.map_cons, List.map_nil, join, List.foldl_cons, List.foldl_nil, append,
    ofString_text hproper, hsteps, current, List.nil_append]

/-- An extension goes to the last component. -/
theorem text_concat (ext : String) : ∀ (cs : List String) (last : String),
    (Path.mk .relative (cs ++ [last])).text ++ ext =
      (Path.mk .relative (cs ++ [last ++ ext])).text := by
  have hjoin : ∀ (cs : List String) (last : String),
      (Path.mk .relative (cs ++ [last])).text = "/".intercalate (cs ++ [last]) := by
    intro cs last
    have hne : (decide (PathRoot.relative = .relative) && (cs ++ [last]).isEmpty) = false := by
      cases cs <;> rfl
    unfold text
    rw [hne]
    exact String.empty_append
  intro cs last
  rw [hjoin, hjoin]
  refine String.toList_injective ?_
  rw [String.toList_append, String.toList_intercalate, String.toList_intercalate, List.map_append,
    List.map_append, List.map_singleton, List.map_singleton, String.toList_append]
  induction cs.map String.toList with
  | nil =>
      rw [List.nil_append, List.nil_append, List.intercalate_singleton, List.intercalate_singleton]
  | cons d ds ih =>
      obtain ⟨x, xs, hx⟩ := List.exists_cons_of_ne_nil (l := ds ++ [last.toList]) (by simp)
      obtain ⟨y, ys, hy⟩ :=
        List.exists_cons_of_ne_nil (l := ds ++ [last.toList ++ ext.toList]) (by simp)
      rw [List.cons_append, List.cons_append, hx, hy, List.intercalate_cons_cons,
        List.intercalate_cons_cons, ← hx, ← hy, List.append_assoc, ih]

/-- **A specifier leads to a file without its extension** if its components, followed from the folder
    of the importing file, lead to the folder of the file and end with its stem. -/
theorem resolve_append {folder name specifier target stem ext : String} {steps : List String}
    (hfolder : (ofString folder).root = .relative) (hname : IsName name)
    (htarget : (ofString target).StaysBelow) (hstem : IsName stem) (hfile : IsName (stem ++ ext))
    (hspecifier : ofString specifier = ⟨.relative, steps ++ [stem]⟩)
    (hsteps : ((ofString folder).components ++ steps).foldl (normalStep false) [] =
      (ofString target).normalize.components.reverse) :
    resolve (joinPath [folder, name]) specifier ++ ext =
      normalText (joinPath [target, stem ++ ext]) := by
  have hlast : ∀ {last : String}, last ≠ ".." → ∀ {cs : List String},
      cs.foldl (normalStep false) [] = (ofString target).normalize.components.reverse →
      (Path.mk .relative (cs ++ [last])).normalize =
        ⟨.relative, (ofString target).normalize.components ++ [last]⟩ := by
    intro last hlast cs hcs
    have hnormal : (Path.mk .relative (cs ++ [last])).normalize =
        ⟨.relative, ((cs ++ [last]).foldl (normalStep false) []).reverse⟩ := rfl
    rw [hnormal, List.foldl_append, hcs, List.foldl_cons, List.foldl_nil, normalStep_name hlast,
      List.reverse_cons, List.reverse_reverse]
  have hpath : ofString (joinPath [target, stem ++ ext]) =
      ⟨.relative, (ofString target).components ++ [stem ++ ext]⟩ := by
    rw [ofString_joinPath]
    simp only [List.map_cons, List.map_nil, join, List.foldl_cons, List.foldl_nil, append,
      hfile.ofString_eq, root_of_relative htarget.1, current, List.nil_append]
  rw [resolve_eq hfolder hname hspecifier, ← List.append_assoc, hlast hstem.down hsteps,
    text_concat]
  unfold normalText
  rw [hpath, hlast hfile.down htarget.foldl_normalStep]

end Path

end DomainGen
