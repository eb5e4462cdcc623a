import DomainGen.Proofs.Naming.FileName

/-!
# Keys that avoid paths

A path keeps every zero of the key it is derived from: capitals, hyphens and suffixes take none away,
and slashes and dots that are dropped are no zeros. So there is always a key whose path is not among
given ones.

* `zeros` : how many zeros a text has; `zeros_fileName_le`, `zeros_joinPath_le` : **file names and
  joined paths keep them**;
* `exists_key_avoiding` : a key that avoids some keys and whose path avoids some paths.
-/

namespace DomainGen

open Text

/-- How many zeros a text has. -/
def zeros (s : List Char) : Nat := s.count '0'

theorem zeros_append (s t : List Char) : zeros (s ++ t) = zeros s + zeros t := List.count_append

/-! ## 1. File names -/

theorem zeros_lowerAfter_le : ∀ before s : List Char, zeros s ≤ zeros (lowerAfter before s)
  | _, [] => Nat.le_refl _
  | before, c :: rest => by
      have ih := zeros_lowerAfter_le (c :: before) rest
      unfold lowerAfter
      rw [zeros_append]
      by_cases hc : c = '0'
      · subst hc
        have hzero : (if '0' == 'Σ' then [if endsWord before rest then 'ς' else 'σ']
            else lowerChar '0') = ['0'] := rfl
        have hcons : zeros ('0' :: rest) = zeros rest + 1 := List.count_cons_self
        have hone : zeros ['0'] = 1 := rfl
        rw [hzero, hcons, hone]
        omega
      · have hcons : zeros (c :: rest) = zeros rest := List.count_cons_of_ne hc
        omega

theorem zeros_capitalize_le (s : List Char) : zeros s ≤ zeros (capitalize s) := by
  cases s with
  | nil => exact Nat.le_refl _
  | cons c rest =>
      rw [capitalize_cons]
      by_cases hc : c = '0'
      · subst hc
        exact Nat.le_refl _
      · have hcons : zeros (c :: rest) = zeros rest := List.count_cons_of_ne hc
        rw [hcons, zeros_append]
        exact Nat.le_add_left _ _

/-- Hyphens and lower case take no zeros away. -/
theorem zeros_hyphenated_le : ∀ segs : List (List Char),
    zeros segs.flatten ≤ zeros ((segs.map lower).flatMap (['-'] ++ ·))
  | [] => Nat.le_refl _
  | s :: segs => by
      have ih := zeros_hyphenated_le segs
      have hlower : zeros s ≤ zeros (lower s) := zeros_lowerAfter_le [] s
      rw [List.flatten_cons, List.map_cons, List.flatMap_cons, zeros_append, zeros_append,
        zeros_append]
      omega

theorem zeros_splitOnCapitals_le (s : String) :
    zeros s.toList ≤ zeros (splitOnCapitals s "-").toList := by
  unfold splitOnCapitals
  rw [String.toList_ofList]
  cases s.toList with
  | nil => exact Nat.le_refl _
  | cons c rest =>
      obtain ⟨seg, segs, hsegs, hflatten, _⟩ := segments_cons c rest
      have hfirst : zeros (c :: seg) ≤ zeros (lower (c :: seg)) := zeros_lowerAfter_le [] _
      have hrest := zeros_hyphenated_le segs
      have hsplit : zeros (c :: rest) = zeros (c :: seg) + zeros segs.flatten := by
        rw [← hflatten, ← List.cons_append, zeros_append]
      have hjoin : zeros (joinWith "-".toList ((segments (c :: rest)).map lower)) =
          zeros (lower (c :: seg)) + zeros ((segs.map lower).flatMap (['-'] ++ ·)) := by
        rw [hsegs, List.map_cons, joinWith_cons, zeros_append]
        rfl
      rw [hjoin, hsplit]
      exact Nat.add_le_add hfirst hrest

/-- **A file name has all zeros of the key.** -/
theorem zeros_fileName_le (p : NamingPolicy) (name : String) (owner : Option String) :
    zeros name.toList ≤ zeros (p.fileName name owner).toList := by
  have hfirst : ∀ s : String, zeros s.toList ≤ zeros (capitalizeFirst s).toList := by
    intro s
    rw [toList_capitalizeFirst]
    exact zeros_capitalize_le s.toList
  unfold NamingPolicy.fileName
  rw [String.toList_append, zeros_append]
  calc zeros name.toList
      ≤ zeros (capitalizeFirst name).toList := hfirst name
    _ ≤ zeros (p.filePrefix owner ++ capitalizeFirst name).toList := by
        rw [String.toList_append, zeros_append]
        exact Nat.le_add_left _ _
    _ ≤ zeros (ensureSuffix (p.filePrefix owner ++ capitalizeFirst name) p.suffix).toList := by
        generalize p.filePrefix owner ++ capitalizeFirst name = base
        rw [ensureSuffix_eq, String.toList_append, zeros_append]
        exact (hfirst base).trans (Nat.le_add_right _ _)
    _ ≤ zeros (splitOnCapitals
          (ensureSuffix (p.filePrefix owner ++ capitalizeFirst name) p.suffix) "-").toList :=
        zeros_splitOnCapitals_le _
    _ ≤ _ := Nat.le_add_right _ _

/-! ## 2. Joined paths -/

/-- How many zeros some components have. -/
def zerosOf (cs : List String) : Nat := (cs.map fun c => zeros c.toList).sum

theorem zeros_joinWith (sep : List Char) (hsep : zeros sep = 0) : ∀ pieces : List (List Char),
    zeros (joinWith sep pieces) = (pieces.map zeros).sum
  | [] => rfl
  | [piece] => by simp [joinWith]
  | piece :: next :: pieces => by
      have ih := zeros_joinWith sep hsep (next :: pieces)
      have hjoin : joinWith sep (piece :: next :: pieces) =
          piece ++ sep ++ joinWith sep (next :: pieces) := rfl
      rw [hjoin, zeros_append, zeros_append, hsep, ih, Nat.add_zero]
      rfl

/-- Pieces that are no components have no zeros. -/
theorem zerosOf_components : ∀ pieces : List (List Char),
    zerosOf ((pieces.map String.ofList).filter Path.isComponent) = (pieces.map zeros).sum
  | [] => rfl
  | piece :: pieces => by
      have ih := zerosOf_components pieces
      unfold zerosOf at ih ⊢
      rw [List.map_cons, List.filter_cons, List.map_cons, List.sum_cons]
      split
      · rw [List.map_cons, List.sum_cons, ih, String.toList_ofList]
      · rename_i hpiece
        have hnone : zeros piece = 0 := by
          have hdots : String.ofList piece = "" ∨ String.ofList piece = "." := by
            unfold Path.isComponent at hpiece
            simpa [or_iff_not_imp_left] using hpiece
          rw [← String.toList_ofList (l := piece)]
          rcases hdots with h | h <;> rw [h] <;> rfl
        rw [hnone, Nat.zero_add, ih]

theorem zerosOf_componentsOf (s : String) : zerosOf (Path.componentsOf s) = zeros s.toList := by
  unfold Path.componentsOf
  rw [zerosOf_components, ← zeros_joinWith ['/'] (by decide), joinWith_splitAt]

theorem zerosOf_le_intercalate : ∀ cs : List String,
    zerosOf cs ≤ zeros (['/'].intercalate (cs.map String.toList))
  | [] => Nat.le_refl _
  | [c] => by
      rw [List.map_singleton, List.intercalate_singleton]
      exact Nat.le_refl _
  | c :: d :: rest => by
      have ih := zerosOf_le_intercalate (d :: rest)
      have hcons : zerosOf (c :: d :: rest) = zeros c.toList + zerosOf (d :: rest) := rfl
      rw [List.map_cons, List.map_cons, List.intercalate_cons_cons, zeros_append, zeros_append,
        hcons]
      rw [List.map_cons] at ih
      omega

/-- The text of a path has the zeros of its components. -/
theorem zerosOf_le_text (p : Path) : zerosOf p.components ≤ zeros p.text.toList := by
  unfold Path.text
  split
  · rename_i h
    rw [List.isEmpty_iff.mp (Bool.and_eq_true_iff.mp h).2]
    exact Nat.zero_le _
  · have hslash : "/".toList = ['/'] := by decide
    rw [String.toList_append, zeros_append, String.toList_intercalate, hslash]
    exact (zerosOf_le_intercalate p.components).trans (Nat.le_add_left _ _)

/-- What a path is read from does not take components of it away. -/
theorem zerosOf_le_append (p q : Path) : zerosOf q.components ≤ zerosOf (p.append q).components := by
  unfold Path.append
  cases q.root with
  | relative =>
      unfold zerosOf
      rw [List.map_append, List.sum_append]
      exact Nat.le_add_left _ _
  | single => exact Nat.le_refl _
  | double => exact Nat.le_refl _

/-- **A file in a folder has a path with all zeros of its name.** -/
theorem zeros_joinPath_le (folder name : String) :
    zeros name.toList ≤ zeros (joinPath [folder, name]).toList := by
  rw [← zerosOf_componentsOf]
  exact (zerosOf_le_append (Path.join [Path.ofString folder]) (Path.ofString name)).trans
    (zerosOf_le_text _)

/-! ## 3. Avoiding -/

/-- **There is a key that is not among given keys and whose path is not among given paths.** -/
theorem exists_key_avoiding (p : NamingPolicy) (folder : String) (owner : Option String)
    (keys paths : List String) :
    ∃ key, key ∉ keys ∧ joinPath [folder, p.fileName key owner] ∉ paths := by
  obtain ⟨n, hn⟩ : ∃ n, ∀ s ∈ keys ++ paths, zeros s.toList < n := by
    refine ⟨zeros ((keys ++ paths).map String.toList).flatten + 1, fun s hs => ?_⟩
    exact Nat.lt_succ_of_le ((List.sublist_flatten_of_mem (List.mem_map_of_mem hs)).count_le '0')
  have hkey : zeros (String.ofList (List.replicate n '0')).toList = n := by
    rw [String.toList_ofList]
    exact List.count_replicate_self
  refine ⟨String.ofList (List.replicate n '0'), fun h => ?_, fun h => ?_⟩
  · have hlt := hn _ (List.mem_append_left _ h)
    omega
  · have hlt := hn _ (List.mem_append_right _ h)
    have hname := zeros_fileName_le p (String.ofList (List.replicate n '0')) owner
    have hpath := zeros_joinPath_le folder
      (p.fileName (String.ofList (List.replicate n '0')) owner)
    omega

end DomainGen
