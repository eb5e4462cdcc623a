import DomainGen.Proofs.Naming.FileName
import DomainGen.Proofs.Path.Resolution

/-!
# Folders cut off at their last dot

What cuts the extension off a file name also cuts a folder name, at the last dot in it. A folder with
a dot in its name is lost this way; the text still leads to the folder only if the dot belongs to a
component that does not count, or to a double dot that is undone behind it.

* `exists_last` : a text with a dot, taken apart at the last one;
* `SameWhenCut` : the texts that lead to the same folder when they are cut;
* `normalText_cut_iff` : **these and no others do**.
-/

namespace DomainGen

open Text

namespace Path

/-! ## 1. The last dot -/

/-- A text, taken apart at the last place of a character in it. -/
theorem exists_last {c : Char} {s : List Char} (h : c ∈ s) :
    ∃ front behind, s = front ++ c :: behind ∧ c ∉ behind := by
  obtain ⟨behind, front, hs, hbehind⟩ := List.eq_append_cons_of_mem (List.mem_reverse.mpr h)
  refine ⟨front.reverse, behind.reverse, ?_, fun hm => hbehind (List.mem_reverse.mp hm)⟩
  rw [← List.reverse_reverse s, hs, List.reverse_append, List.reverse_cons, List.append_assoc,
    List.singleton_append]

/-! ## 2. Components -/

/-- The component that a text without slashes is, if it counts. -/
theorem componentsOfChars_word {s : List Char} (h : '/' ∉ s) :
    componentsOfChars s = [String.ofList s].filter isComponent := by
  unfold componentsOfChars
  rw [splitAt_of_not_mem h]
  rfl

/-- Without dots a text has no components only if it is all slashes. -/
theorem componentsOfChars_eq_nil : ∀ {s : List Char}, '.' ∉ s →
    (componentsOfChars s = [] ↔ ∀ c ∈ s, c = '/')
  | [], _ => iff_of_true rfl fun c hc => absurd hc List.not_mem_nil
  | c :: s, h => by
      have ih : componentsOfChars s = [] ↔ ∀ d ∈ s, d = '/' :=
        componentsOfChars_eq_nil fun hm => h (List.mem_cons_of_mem c hm)
      rw [List.forall_mem_cons]
      by_cases hc : c = '/'
      · subst hc
        rw [componentsOfChars_slash, ih]
        exact (and_iff_right rfl).symm
      · obtain ⟨piece, pieces, hs⟩ := List.exists_cons_of_ne_nil (splitAt_ne_nil '/' s)
        have hfront : '/' ∉ [c] := fun hm => hc (List.mem_singleton.mp hm).symm
        have hsplit := splitAt_append hs hfront
        rw [List.singleton_append, List.singleton_append] at hsplit
        have hcount : isComponent (String.ofList (c :: piece)) = true := by
          unfold isComponent
          rw [Bool.and_eq_true, bne_iff_ne, bne_iff_ne]
          constructor
          · intro heq
            cases (String.toList_ofList).symm.trans (congrArg String.toList heq)
          · intro heq
            have hchars := (String.toList_ofList).symm.trans (congrArg String.toList heq)
            exact h (List.mem_cons.mpr (Or.inl (List.cons.inj hchars).1.symm))
        refine iff_of_false (fun hnil => ?_) fun hall => hc hall.1
        unfold componentsOfChars at hnil
        rw [hsplit, List.map_cons, List.filter_cons_of_pos hcount] at hnil
        cases hnil

/-- Without dots there is no double dot. -/
theorem climb_not_mem_componentsOfChars {s : List Char} (h : '.' ∉ s) :
    ".." ∉ componentsOfChars s := by
  intro hm
  obtain ⟨piece, hpiece, heq⟩ := List.mem_map.mp (List.mem_filter.mp hm).1
  have hdot : '.' ∈ piece := by
    rw [← String.toList_ofList (l := piece), heq]
    decide
  exact h (mem_of_mem_splitAt hpiece hdot)

/-! ## 3. Folders that survive -/

/-- The folders that lead to the same folder when they are cut off at their last dot. -/
inductive SameWhenCut (s : String) : Prop where
  /-- There is no dot. -/
  | plain (h : '.' ∉ s.toList)
  /-- The last dot comes first, so nothing is cut off. -/
  | leading {behind : List Char} (h : s.toList = '.' :: behind) (hbehind : '.' ∉ behind)
  /-- The last dot is alone between slashes, and only slashes follow. -/
  | idle {front behind : List Char} (h : s.toList = front ++ '/' :: '.' :: behind)
    (hbehind : ∀ c ∈ behind, c = '/')
  /-- The last dot is the second of a double dot, and one component follows: the one that the double
      dot took back. -/
  | undone {front behind : List Char} {x : String}
    (h : s.toList = front ++ '/' :: '.' :: '.' :: '/' :: behind) (hbehind : '.' ∉ behind)
    (hx : componentsOfChars behind = [x])
    (hback : ((componentsOfChars front).foldl (normalStep false) []).head? = some x)

/-- What a step puts on top is its component. -/
theorem normalStep_eq_cons {done : List String} {c top : String}
    (h : normalStep false done c = top :: done) : top = c := by
  unfold normalStep at h
  split at h
  · rename_i hc
    cases done with
    | nil => exact (List.cons.inj h).1.symm.trans hc.symm
    | cons d rest =>
        dsimp only at h
        split at h
        · exact (List.cons.inj h).1.symm.trans hc.symm
        · have hlength := congrArg List.length h
          rw [List.length_cons, List.length_cons] at hlength
          omega
  · exact (List.cons.inj h).1.symm

/-- A double dot is undone by names behind it only if they are the one that it took back. -/
theorem normalStep_undone {done more : List String}
    (h : done = more.reverse ++ normalStep false done "..") :
    ∃ x, more = [x] ∧ done.head? = some x := by
  have hlength := congrArg List.length h
  rw [List.length_append, List.length_reverse] at hlength
  cases done with
  | nil =>
      have hone : (normalStep false [] "..").length = 1 := by decide
      rw [hone, List.length_nil] at hlength
      omega
  | cons d rest =>
      by_cases hd : d = ".."
      · have hclimb : normalStep false (d :: rest) ".." = ".." :: d :: rest := if_pos hd
        simp only [hclimb, List.length_cons] at hlength
        omega
      · have hback : normalStep false (d :: rest) ".." = rest := if_neg hd
        rw [hback, List.length_cons] at hlength
        obtain ⟨x, rfl⟩ := List.length_eq_one_iff.mp (by omega : more.length = 1)
        rw [hback] at h
        exact ⟨x, rfl, congrArg some (List.cons.inj h).1⟩

/-- A word that is a single dot. -/
theorem word_eq_dot : ∀ {word behind : List Char}, word ++ '.' :: behind = ['.'] →
    word = [] ∧ behind = []
  | [], _, h => ⟨rfl, (List.cons.inj h).2⟩
  | [_], _, h => by cases h
  | _ :: _ :: _, _, h => by cases h

/-- A word that is a double dot, taken apart at the second. -/
theorem word_eq_dots : ∀ {word behind : List Char}, '.' ∉ behind →
    word ++ '.' :: behind = ['.', '.'] → word = ['.'] ∧ behind = []
  | [], _, hdot, h => absurd ((List.cons.inj h).2 ▸ List.mem_cons_self) hdot
  | [_], _, _, h => by
      obtain ⟨hc, hrest⟩ := List.cons.inj h
      exact ⟨congrArg (fun c => [c]) hc, (List.cons.inj hrest).2⟩
  | [_, _], _, _, h => by cases h
  | _ :: _ :: _ :: _, _, _, h => by cases h

/-- A word that counts is a folder, and the part of it before a dot is another one. -/
theorem normalStep_word_ne {done more : List String} {word behind : List Char}
    (hone : word ++ '.' :: behind ≠ ['.']) (htwo : word ++ '.' :: behind ≠ ['.', '.']) :
    ([String.ofList word].filter isComponent).foldl (normalStep false) done ≠ more.reverse ++
      ([String.ofList (word ++ '.' :: behind)].filter isComponent).foldl (normalStep false) done := by
  intro h
  have hne : ∀ {t : List Char}, word ++ '.' :: behind ≠ t →
      String.ofList (word ++ '.' :: behind) ≠ String.ofList t := fun hne heq =>
    hne (String.ofList_injective heq)
  have hcount : isComponent (String.ofList (word ++ '.' :: behind)) = true := by
    unfold isComponent
    rw [Bool.and_eq_true, bne_iff_ne, bne_iff_ne]
    exact ⟨hne (t := []) (by simp), hne hone⟩
  rw [List.filter_cons_of_pos hcount, List.filter_nil, List.foldl_cons, List.foldl_nil,
    normalStep_name (hne htwo)] at h
  cases hc : isComponent (String.ofList word) with
  | false =>
      rw [List.filter_cons_of_neg (by rw [hc]; exact Bool.false_ne_true), List.filter_nil,
        List.foldl_nil] at h
      have hlength := congrArg List.length h
      rw [List.length_append, List.length_cons] at hlength
      omega
  | true =>
      rw [List.filter_cons_of_pos hc, List.filter_nil, List.foldl_cons, List.foldl_nil] at h
      have hlength := length_normalStep_le false done (String.ofList word)
      rw [h, List.length_append, List.length_cons, List.length_reverse] at hlength
      obtain rfl : more = [] := List.length_eq_zero_iff.mp (by omega)
      have hshort := String.ofList_injective (normalStep_eq_cons h).symm
      have hlonger := congrArg List.length hshort
      rw [List.length_append, List.length_cons] at hlonger
      omega

/-- Following some components and then a word with a dot in it leads where the part of the word before
    the dot leads only if the word does not count or is taken back. -/
theorem foldl_word_eq {done more : List String} {word behind : List Char} (hword : '/' ∉ word)
    (hslash : '/' ∉ behind) (hdot : '.' ∉ behind) (hmore : ".." ∉ more)
    (h : (componentsOfChars word).foldl (normalStep false) done =
      ((componentsOfChars (word ++ '.' :: behind)) ++ more).foldl (normalStep false) done) :
    (word = [] ∧ behind = [] ∧ more = []) ∨
      (word = ['.'] ∧ behind = [] ∧ ∃ x, more = [x] ∧ done.head? = some x) := by
  have hlong : '/' ∉ word ++ '.' :: behind := by
    rw [List.mem_append, List.mem_cons, not_or, not_or]
    exact ⟨hword, by decide, hslash⟩
  rw [List.foldl_append, foldl_normalStep_names hmore, componentsOfChars_word hword,
    componentsOfChars_word hlong] at h
  by_cases hone : word ++ '.' :: behind = ['.']
  · -- a single dot does not count, so nothing may follow
    obtain ⟨rfl, rfl⟩ := word_eq_dot hone
    have hnone : [String.ofList ([] ++ ['.'])].filter isComponent = [] := by decide
    have hempty : [String.ofList []].filter isComponent = [] := by decide
    rw [hnone, hempty, List.foldl_nil] at h
    have hlength := congrArg List.length h
    rw [List.length_append, List.length_reverse] at hlength
    exact Or.inl ⟨rfl, rfl, List.length_eq_zero_iff.mp (by omega)⟩
  by_cases htwo : word ++ '.' :: behind = ['.', '.']
  · -- a double dot must be undone by what follows
    obtain ⟨rfl, rfl⟩ := word_eq_dots hdot htwo
    have hclimb : [String.ofList (['.'] ++ ['.'])].filter isComponent = [".."] := by decide
    have hnone : [String.ofList ['.']].filter isComponent = [] := by decide
    rw [hclimb, hnone] at h
    exact Or.inr ⟨rfl, rfl, normalStep_undone h⟩
  · exact absurd h (normalStep_word_ne hone htwo)

/-! ## 4. Main result -/

/-- The place a text leads to is found by following its components. -/
theorem normalText_eq_iff_foldl {s t : String} (hs : (ofString s).root = .relative)
    (ht : (ofString t).root = .relative) : normalText s = normalText t ↔
      (componentsOfChars s.toList).foldl (normalStep false) [] =
        (componentsOfChars t.toList).foldl (normalStep false) [] := by
  have hnormal : ∀ {u : String}, (ofString u).root = .relative → (ofString u).normalize =
      ⟨.relative, ((componentsOfChars u.toList).foldl (normalStep false) []).reverse⟩ := by
    intro u hu
    have habsolute : (ofString u).isAbsolute = false := by
      unfold isAbsolute
      rw [hu]
      rfl
    unfold normalize
    rw [habsolute, hu]
    rfl
  rw [normalText_eq_iff, hnormal hs, hnormal ht, Path.mk.injEq, List.reverse_inj]
  exact and_iff_right rfl

/-- The last word of a text, and what is before it. -/
theorem exists_lastWord (front : List Char) : ∃ done word : List Char, '/' ∉ word ∧
    (∀ t, componentsOfChars (front ++ t) = componentsOfChars done ++ componentsOfChars (word ++ t)) ∧
    ((done = [] ∧ front = word) ∨ front = done ++ '/' :: word) := by
  by_cases h : '/' ∈ front
  · obtain ⟨done, word, rfl, hword⟩ := exists_last h
    refine ⟨done, word, hword, fun t => ?_, Or.inr rfl⟩
    rw [List.append_assoc, List.cons_append, componentsOfChars_concat]
  · exact ⟨[], front, h, fun _ => rfl, Or.inl ⟨rfl, rfl⟩⟩

/-- The first word of a text, and what is behind it. -/
theorem exists_firstWord (behind : List Char) : ∃ word more : List Char, '/' ∉ word ∧
    (∀ t, componentsOfChars (t ++ behind) = componentsOfChars (t ++ word) ++ componentsOfChars more) ∧
    ((more = [] ∧ behind = word) ∨ behind = word ++ '/' :: more) := by
  by_cases h : '/' ∈ behind
  · obtain ⟨word, more, rfl, hword⟩ := List.eq_append_cons_of_mem h
    refine ⟨word, more, hword, fun t => ?_, Or.inr rfl⟩
    rw [← List.append_assoc, componentsOfChars_concat]
  · exact ⟨behind, [], h, fun _ => (List.append_nil _).symm, Or.inl ⟨rfl, rfl⟩⟩

/-- What is cut off at a dot that is not the first character: the text leads to the same place only if
    the dot does not count or is taken back. -/
theorem sameWhenCut_of_eq {s : String} {front behind : List Char}
    (hs : s.toList = front ++ '.' :: behind) (hdot : '.' ∉ behind) (hne : front ≠ [])
    (h : (componentsOfChars front).foldl (normalStep false) [] =
      (componentsOfChars s.toList).foldl (normalStep false) []) : SameWhenCut s := by
  obtain ⟨done, word, hword, hfront, hdone⟩ := exists_lastWord front
  obtain ⟨rest, more, hrest, hbehind, hmore⟩ := exists_firstWord behind
  have hrestDot : '.' ∉ rest ∧ '.' ∉ more := by
    rcases hmore with ⟨rfl, rfl⟩ | rfl
    · exact ⟨hdot, List.not_mem_nil⟩
    · rw [List.mem_append, List.mem_cons, not_or, not_or] at hdot
      exact ⟨hdot.1, hdot.2.2⟩
  have hshort : componentsOfChars front = componentsOfChars done ++ componentsOfChars word := by
    have := hfront []
    rw [List.append_nil, List.append_nil] at this
    exact this
  have hlong : componentsOfChars s.toList = componentsOfChars done ++
      (componentsOfChars (word ++ '.' :: rest) ++ componentsOfChars more) := by
    have hsplit := hbehind (word ++ ['.'])
    rw [List.append_assoc, List.append_assoc, List.singleton_append, List.singleton_append] at hsplit
    rw [hs, hfront, hsplit]
  rw [hshort, hlong, List.foldl_append, List.foldl_append] at h
  rcases foldl_word_eq hword hrest hrestDot.1 (climb_not_mem_componentsOfChars hrestDot.2) h with
    ⟨rfl, rfl, hnone⟩ | ⟨rfl, rfl, x, hx, hback⟩
  · obtain rfl : front = done ++ ['/'] := hdone.resolve_left fun hempty => hne hempty.2
    have hidle : s.toList = done ++ '/' :: '.' :: behind := by
      rw [hs, List.append_assoc]
      rfl
    have hslashes := (componentsOfChars_eq_nil hrestDot.2).mp hnone
    refine .idle hidle ?_
    rcases hmore with ⟨_, rfl⟩ | rfl
    · exact fun c hc => absurd hc List.not_mem_nil
    · rw [List.nil_append, List.forall_mem_cons]
      exact ⟨rfl, hslashes⟩
  · rcases hdone with ⟨rfl, rfl⟩ | rfl
    · cases hback
    · rcases hmore with ⟨rfl, rfl⟩ | rfl
      · cases hx
      · have hundone : s.toList = done ++ '/' :: '.' :: '.' :: '/' :: more := by
          rw [hs, List.append_assoc]
          rfl
        exact .undone hundone hrestDot.2 hx hback

/-- A dot that stands alone does not count. -/
theorem cut_idle {s : String} {front behind : List Char}
    (hs : s.toList = front ++ '/' :: '.' :: behind) (hbehind : ∀ c ∈ behind, c = '/') :
    componentsOfChars (stripExtension s).toList = componentsOfChars s.toList := by
  have hdot : '.' ∉ behind := fun hm => absurd (hbehind '.' hm) (by decide)
  have hcut : s.toList = (front ++ ['/']) ++ '.' :: behind := by
    rw [hs, List.append_assoc]
    rfl
  have hnone : componentsOfChars ('.' :: behind) = [] := by
    cases behind with
    | nil => decide
    | cons c rest =>
        obtain rfl := hbehind c List.mem_cons_self
        have hrest := (componentsOfChars_eq_nil fun hm => hdot (List.mem_cons_of_mem _ hm)).mpr
          fun d hd => hbehind d (List.mem_cons_of_mem _ hd)
        have hsplit := componentsOfChars_concat ['.'] rest
        rw [hrest] at hsplit
        exact hsplit
  rw [stripExtension_append hcut hdot, if_neg (by simp), String.toList_ofList, hs,
    componentsOfChars_concat, componentsOfChars_concat, hnone]
  rfl

/-- A double dot that is undone leads back. -/
theorem cut_undone {s : String} {front behind : List Char} {x : String}
    (hs : s.toList = front ++ '/' :: '.' :: '.' :: '/' :: behind) (hbehind : '.' ∉ behind)
    (hx : componentsOfChars behind = [x])
    (hback : ((componentsOfChars front).foldl (normalStep false) []).head? = some x) :
    (componentsOfChars (stripExtension s).toList).foldl (normalStep false) [] =
      (componentsOfChars s.toList).foldl (normalStep false) [] := by
  have hdot : '.' ∉ '/' :: behind := by
    rw [List.mem_cons, not_or]
    exact ⟨by decide, hbehind⟩
  have hcut : s.toList = (front ++ ['/', '.']) ++ '.' :: '/' :: behind := by
    rw [hs, List.append_assoc]
    rfl
  have hname : x ≠ ".." := by
    rintro rfl
    exact climb_not_mem_componentsOfChars hbehind (hx ▸ List.mem_cons_self)
  have hlong : componentsOfChars ('.' :: '.' :: '/' :: behind) = [".."] ++ [x] := by
    have hsplit := componentsOfChars_concat ['.', '.'] behind
    have hclimb : componentsOfChars ['.', '.'] = [".."] := by decide
    rw [hclimb, hx] at hsplit
    exact hsplit
  have hshort : componentsOfChars ['.'] = [] := by decide
  rw [stripExtension_append hcut hdot, if_neg (by simp), String.toList_ofList, hs,
    componentsOfChars_concat, componentsOfChars_concat, hlong, hshort, List.append_nil,
    List.foldl_append]
  obtain ⟨rest, hrest⟩ := List.head?_eq_some_iff.mp hback
  have hstep : normalStep false (x :: rest) ".." = rest := if_neg hname
  rw [hrest, List.singleton_append, List.foldl_cons, List.foldl_cons, List.foldl_nil, hstep,
    normalStep_name hname]

/-- **A folder that is cut off at its last dot leads to the same folder exactly if it is one of
    these.** -/
theorem normalText_cut_iff {s : String} (h : (ofString s).root = .relative) :
    normalText ("./" ++ stripExtension s) = normalText s ↔ SameWhenCut s := by
  have hcomponents : ∀ t : String, componentsOfChars ("./" ++ t).toList =
      componentsOfChars t.toList := fun t => congrArg Path.components (ofString_dot t)
  rw [normalText_eq_iff_foldl (congrArg Path.root (ofString_dot _)) h, hcomponents]
  constructor
  · intro heq
    by_cases hdot : '.' ∈ s.toList
    · obtain ⟨front, behind, hs, hbehind⟩ := exists_last hdot
      rw [stripExtension_append hs hbehind] at heq
      by_cases hfront : front = []
      · rw [hfront] at hs
        exact .leading hs hbehind
      · rw [if_neg hfront, String.toList_ofList] at heq
        exact sameWhenCut_of_eq hs hbehind hfront heq
    · exact .plain hdot
  · intro hsame
    cases hsame with
    | plain hdot => rw [stripExtension_of_not_mem hdot]
    | leading hs hbehind =>
        rename_i behind
        have hs : s.toList = [] ++ '.' :: behind := hs
        rw [stripExtension_append hs hbehind, if_pos rfl]
    | idle hs hbehind => rw [cut_idle hs hbehind]
    | undone hs hbehind hx hback => exact cut_undone hs hbehind hx hback

end Path

end DomainGen
