import DomainGen.Naming
import DomainGen.Proofs.Path.Descent

/-!
# File names

A file name is made from keys by capitalising, by putting segments in lower case and by joining them
with hyphens. None of this touches a slash or a dot, so a key that reads as a path is still one in
the file name.

An import names a file without its extension. What is cut off is the text from the last dot on, so
of a file name that ends in a plain extension the stem is left, whatever dots the stem has.

* `segments_cons` : the segments of a text, joined, are the text, and each but the first begins with
  an upper-case character;
* `respelled_splitOnCapitals` : a hyphenated text is a respelling;
* `NamingPolicy.descends_fileName` : **a file name descends exactly if the keys, the suffix and the
  extension do, written one behind the other**;
* `stripExtension_append` : **what is left of a name is what stands before its last dot**;
* `HasWord` : some character is neither a slash nor a dot; respelling keeps that;
* `NamingPolicy.stem` : a file name before the extension; with a proper suffix it is never empty, a
  dot or two, and without slashes in keys and suffix it has none.
-/

namespace DomainGen

open Text

/-! ## 1. Segments -/

/-- **The segments of a text are its pieces**, and each but the first begins with an upper-case
    character. -/
theorem segments_cons : ∀ (c : Char) (rest : List Char), ∃ seg segs,
    segments (c :: rest) = (c :: seg) :: segs ∧ seg ++ segs.flatten = rest ∧
      ∀ s ∈ segs, ∃ d y, s = d :: y ∧ isUpper d = true
  | c, [] => ⟨[], [], rfl, rfl, fun _ h => absurd h List.not_mem_nil⟩
  | c, d :: rest => by
      obtain ⟨seg, segs, hsegs, hflatten, hupper⟩ := segments_cons d rest
      unfold segments
      rw [hsegs]
      cases hd : isUpper d with
      | true =>
          refine ⟨[], (d :: seg) :: segs, rfl, congrArg (d :: ·) hflatten, ?_⟩
          rw [List.forall_mem_cons]
          exact ⟨⟨d, seg, rfl, hd⟩, hupper⟩
      | false => exact ⟨d :: seg, segs, rfl, congrArg (d :: ·) hflatten, hupper⟩

theorem joinWith_cons (sep piece : List Char) : ∀ pieces : List (List Char),
    joinWith sep (piece :: pieces) = piece ++ pieces.flatMap (sep ++ ·)
  | [] => (List.append_nil piece).symm
  | next :: pieces => by
      have hjoin : joinWith sep (piece :: next :: pieces) =
          piece ++ sep ++ joinWith sep (next :: pieces) := rfl
      rw [hjoin, joinWith_cons sep next pieces, List.flatMap_cons, List.append_assoc,
        List.append_assoc]

/-! ## 2. Hyphenated texts -/

theorem isMark_of_isUpper {c : Char} (h : isUpper c = true) : isMark c = false := by
  refine Bool.eq_false_iff.mpr fun hmark => ?_
  rcases isMark_iff.mp hmark with rfl | rfl
  · exact absurd h (by decide)
  · exact absurd h (by decide)

/-- A hyphen may stand in front of a character other than a slash or a dot. -/
theorem Respelled.hyphen {c : Char} (hc : isMark c = false) {s t : List Char}
    (h : Respelled (c :: s) t) : Respelled (c :: s) ('-' :: t) := by
  cases h with
  | mark hmark _ => exact absurd hmark (Bool.eq_false_iff.mp hc)
  | word _ _ himage hrest =>
      rename_i image _
      rw [← List.cons_append]
      refine .word hc (List.cons_ne_nil _ _) (fun d hd => ?_) hrest
      rcases List.mem_cons.mp hd with rfl | hd
      · decide
      · exact himage d hd

theorem respelled_segments : ∀ {segs : List (List Char)},
    (∀ s ∈ segs, ∃ d y, s = d :: y ∧ isUpper d = true) →
      Respelled segs.flatten ((segs.map lower).flatMap (['-'] ++ ·))
  | [], _ => .nil
  | s :: segs, h => by
      obtain ⟨⟨d, y, rfl, hd⟩, hrest⟩ := List.forall_mem_cons.mp h
      have hsegment := (respelled_lower (d :: y)).hyphen (isMark_of_isUpper hd)
      exact hsegment.append (respelled_segments hrest)

/-- **A hyphenated text in lower case is a respelling of the text.** -/
theorem respelled_splitOnCapitals (s : String) :
    Respelled s.toList (splitOnCapitals s "-").toList := by
  unfold splitOnCapitals
  rw [String.toList_ofList]
  cases s.toList with
  | nil => exact .nil
  | cons c rest =>
      obtain ⟨seg, segs, hsegs, hflatten, hupper⟩ := segments_cons c rest
      rw [hsegs, List.map_cons, joinWith_cons, ← hflatten]
      exact (respelled_lower (c :: seg)).append (respelled_segments hupper)

/-! ## 3. File names -/

theorem toList_capitalizeFirst (s : String) : (capitalizeFirst s).toList = capitalize s.toList :=
  String.toList_ofList

theorem respelled_capitalizeFirst (s : String) : Respelled s.toList (capitalizeFirst s).toList := by
  rw [toList_capitalizeFirst]
  exact respelled_capitalize s.toList

/-- What `ensureSuffix` appends to a text. -/
def missingSuffix (s suffix : String) : String :=
  if endsIgnoringCase (capitalize s.toList) suffix.toList then "" else suffix

theorem ensureSuffix_eq (s suffix : String) :
    ensureSuffix s suffix = capitalizeFirst s ++ missingSuffix s suffix := by
  refine String.toList_injective ?_
  unfold ensureSuffix missingSuffix
  rw [String.toList_append, String.toList_ofList, toList_capitalizeFirst]
  split
  · exact (List.append_nil _).symm
  · rfl

/-- Texts are respelled part by part. -/
theorem Respelled.concat {s t u v : String} (h : Respelled s.toList t.toList)
    (h' : Respelled u.toList v.toList) : Respelled (s ++ u).toList (t ++ v).toList := by
  rw [String.toList_append, String.toList_append]
  exact h.append h'

theorem Respelled.before {s t : String} (h : Respelled s.toList t.toList) (u : String) :
    Respelled (s ++ u).toList (t ++ u).toList := h.concat (.refl _)

namespace NamingPolicy

variable (p : NamingPolicy)

/-- The key of the aggregate where the policy puts it in front. -/
def ownerKey : Option String → String
  | some aggregate => if p.prefixAggregateName then aggregate else ""
  | none => ""

/-- A file name before its letters are changed and hyphens are put in: the keys, the suffix unless
    it is there already, and the extension. -/
def plainFileName (name : String) (owner : Option String) : String :=
  p.ownerKey owner ++ name ++ missingSuffix (p.filePrefix owner ++ capitalizeFirst name) p.suffix
    ++ p.extension

theorem respelled_filePrefix (owner : Option String) :
    Respelled (p.ownerKey owner).toList (p.filePrefix owner).toList := by
  unfold ownerKey filePrefix
  cases owner with
  | none => exact .nil
  | some aggregate =>
      cases p.prefixAggregateName with
      | true => exact respelled_capitalizeFirst aggregate
      | false => exact .nil

/-- **A file name descends exactly if the keys, the suffix and the extension do, written one behind
    the other.** -/
theorem descends_fileName (name : String) (owner : Option String) :
    (Path.ofString (p.fileName name owner)).Descends ↔
      (Path.ofString (p.plainFileName name owner)).Descends := by
  have hkeys : Respelled (p.ownerKey owner ++ name).toList
      (p.filePrefix owner ++ capitalizeFirst name).toList :=
    (p.respelled_filePrefix owner).concat (respelled_capitalizeFirst name)
  unfold fileName plainFileName
  generalize p.filePrefix owner ++ capitalizeFirst name = base at hkeys
  rw [ensureSuffix_eq]
  -- the keys are capitalised, then the whole text is, then hyphens are put in
  have hbase := ((hkeys.before (missingSuffix base p.suffix)).before p.extension).descends_iff
  have hfirst := (((respelled_capitalizeFirst base).before
    (missingSuffix base p.suffix)).before p.extension).descends_iff
  have hhyphens := ((respelled_splitOnCapitals
    (capitalizeFirst base ++ missingSuffix base p.suffix)).before p.extension).descends_iff
  exact (hbase.trans (hfirst.trans hhyphens)).symm

end NamingPolicy

/-! ## 4. The last dot -/

theorem takeWhile_reverse {front ext : List Char} (h : '.' ∉ ext) :
    ((front ++ '.' :: ext).reverse.takeWhile (· != '.')).reverse = ext := by
  have hext : ∀ c ∈ ext.reverse, (c != '.') = true := by
    intro c hc
    rw [bne_iff_ne]
    rintro rfl
    exact h (List.mem_reverse.mp hc)
  have hdot : ('.' :: front.reverse).takeWhile (· != '.') = [] := by simp
  rw [List.reverse_append, List.reverse_cons, List.append_assoc, List.singleton_append,
    List.takeWhile_append_of_pos hext, hdot, List.append_nil, List.reverse_reverse]

/-- **What is left of a name is what stands before its last dot**, unless nothing does. -/
theorem stripExtension_append {s : String} {front ext : List Char}
    (hs : s.toList = front ++ '.' :: ext) (h : '.' ∉ ext) :
    stripExtension s = if front = [] then s else String.ofList front := by
  have hdot : s.toList.contains '.' = true := by
    rw [hs]
    exact List.contains_iff_mem.mpr (List.mem_append_right _ List.mem_cons_self)
  have hstem : s.toList.take (s.toList.length - ext.length - 1) = front := by
    have hlength : s.toList.length - ext.length - 1 = front.length := by
      rw [hs, List.length_append, List.length_cons]
      omega
    rw [hlength, hs, List.take_left]
  have hext : (s.toList.reverse.takeWhile (· != '.')).reverse = ext := by
    rw [hs]
    exact takeWhile_reverse h
  unfold stripExtension
  simp only [hext, hstem, hdot, Bool.true_and]
  cases front with
  | nil => rfl
  | cons c front => rfl

/-- A name without a dot is left as it is. -/
theorem stripExtension_of_not_mem {s : String} (h : '.' ∉ s.toList) : stripExtension s = s := by
  have hdot : s.toList.contains '.' = false := by
    rw [← Bool.not_eq_true, List.contains_iff_mem]
    exact h
  unfold stripExtension
  simp only [hdot, Bool.false_and, Bool.false_eq_true, if_false]

/-! ## 5. Words -/

/-- Some character is neither a slash nor a dot. -/
def HasWord (s : List Char) : Prop := ∃ c ∈ s, isMark c = false

theorem HasWord.append_right {s t : List Char} (h : HasWord t) : HasWord (s ++ t) := by
  obtain ⟨c, hc, hmark⟩ := h
  exact ⟨c, List.mem_append_right s hc, hmark⟩

theorem HasWord.append_left {s t : List Char} (h : HasWord s) : HasWord (s ++ t) := by
  obtain ⟨c, hc, hmark⟩ := h
  exact ⟨c, List.mem_append_left t hc, hmark⟩

/-- A text with a word is not empty, a dot or two. -/
theorem HasWord.ne_dots {s : String} (h : HasWord s.toList) : s ≠ "" ∧ s ≠ "." ∧ s ≠ ".." := by
  obtain ⟨c, hc, hmark⟩ := h
  have hdots : ∀ n : Nat, s.toList ≠ List.replicate n '.' := by
    intro n heq
    rw [heq] at hc
    rw [List.eq_of_mem_replicate hc] at hmark
    cases hmark
  refine ⟨fun heq => hdots 0 ?_, fun heq => hdots 1 ?_, fun heq => hdots 2 ?_⟩
  · rw [heq]
    rfl
  · rw [heq]
    decide
  · rw [heq]
    decide

namespace Respelled

variable {s t : List Char}

theorem hasWord_iff (h : Respelled s t) : HasWord s ↔ HasWord t := by
  induction h with
  | nil => exact Iff.rfl
  | mark hc _ ih =>
      rename_i c s t _
      have htail : ∀ u : List Char, HasWord (c :: u) ↔ HasWord u := by
        intro u
        unfold HasWord
        rw [List.exists_mem_cons_iff, hc]
        exact or_iff_right Bool.noConfusion
      rw [htail, htail]
      exact ih
  | word hc hne himage _ _ =>
      obtain ⟨d, ds, rfl⟩ := List.exists_cons_of_ne_nil hne
      exact iff_of_true ⟨_, List.mem_cons_self, hc⟩
        ⟨d, List.mem_append_left _ List.mem_cons_self, himage d List.mem_cons_self⟩

theorem slash_mem_iff (h : Respelled s t) : '/' ∈ s ↔ '/' ∈ t := by
  induction h with
  | nil => exact Iff.rfl
  | mark _ _ ih => rw [List.mem_cons, List.mem_cons, ih]
  | word hc _ himage _ ih =>
      rename_i c s t image _ _
      have hhead : '/' ≠ c := by
        rintro rfl
        cases hc
      have himage' : '/' ∉ image := fun hm => absurd (himage '/' hm) (by decide)
      rw [List.mem_cons, List.mem_append, ih]
      exact ⟨fun hm => Or.inr (hm.resolve_left hhead), fun hm => Or.inr (hm.resolve_left himage')⟩

end Respelled

/-- A name with a suffix has a word if the suffix has one: either the suffix is there already, in
    other letters, or it is appended. -/
theorem hasWord_ensureSuffix {s suffix : String} (h : HasWord suffix.toList) :
    HasWord (ensureSuffix s suffix).toList := by
  rw [ensureSuffix_eq, String.toList_append]
  unfold missingSuffix
  split
  · rename_i hends
    obtain ⟨front, hfront⟩ := List.isSuffixOf_iff_suffix.mp hends
    have hlower : HasWord (lower (capitalize s.toList)) := by
      rw [← hfront]
      exact HasWord.append_right ((respelled_lower _).hasWord_iff.mp h)
    have hcapital : HasWord (capitalizeFirst s).toList := by
      rw [toList_capitalizeFirst]
      exact (respelled_lower _).hasWord_iff.mpr hlower
    rw [String.toList_empty, List.append_nil]
    exact hcapital
  · exact HasWord.append_right h

/-- A name with a suffix has no slash if neither of them has one. -/
theorem slash_not_mem_ensureSuffix {s suffix : String} (hs : '/' ∉ s.toList)
    (hsuffix : '/' ∉ suffix.toList) : '/' ∉ (ensureSuffix s suffix).toList := by
  have hfirst : '/' ∉ (capitalizeFirst s).toList := fun hm =>
    hs ((respelled_capitalizeFirst s).slash_mem_iff.mpr hm)
  have hmissing : '/' ∉ (missingSuffix s suffix).toList := by
    unfold missingSuffix
    split
    · exact List.not_mem_nil
    · exact hsuffix
  rw [ensureSuffix_eq, String.toList_append, List.mem_append, not_or]
  exact ⟨hfirst, hmissing⟩

/-! ## 6. Stems -/

namespace NamingPolicy

variable {p : NamingPolicy} {name : String} {owner : Option String}

/-- A file name before the extension. -/
def stem (p : NamingPolicy) (name : String) (owner : Option String) : String :=
  splitOnCapitals (ensureSuffix (p.filePrefix owner ++ capitalizeFirst name) p.suffix) "-"

theorem fileName_eq_stem (p : NamingPolicy) (name : String) (owner : Option String) :
    p.fileName name owner = p.stem name owner ++ p.extension := rfl

/-- With a word in the suffix a stem has a word. -/
theorem hasWord_stem (h : HasWord p.suffix.toList) (name : String) (owner : Option String) :
    HasWord (p.stem name owner).toList :=
  (respelled_splitOnCapitals _).hasWord_iff.mp (hasWord_ensureSuffix h)

/-- A stem has no slash if the keys and the suffix have none. -/
theorem slash_not_mem_stem (hsuffix : '/' ∉ p.suffix.toList) (hname : '/' ∉ name.toList)
    (howner : '/' ∉ (p.ownerKey owner).toList) : '/' ∉ (p.stem name owner).toList := by
  have hbase : '/' ∉ (p.filePrefix owner ++ capitalizeFirst name).toList := by
    rw [String.toList_append, List.mem_append, not_or]
    exact ⟨fun hm => howner ((p.respelled_filePrefix owner).slash_mem_iff.mpr hm),
      fun hm => hname ((respelled_capitalizeFirst name).slash_mem_iff.mpr hm)⟩
  intro hm
  exact slash_not_mem_ensureSuffix hbase hsuffix
    ((respelled_splitOnCapitals _).slash_mem_iff.mpr hm)

/-- **A file name without its extension is its stem** if the extension has no dot but its first. -/
theorem stripExtension_fileName (h : HasWord p.suffix.toList) {x : String}
    (hx : p.extension = "." ++ x) (hdot : '.' ∉ x.toList) (name : String) (owner : Option String) :
    stripExtension (p.fileName name owner) = p.stem name owner := by
  have hchars : (p.fileName name owner).toList =
      (p.stem name owner).toList ++ '.' :: x.toList := by
    rw [fileName_eq_stem, hx, String.toList_append, String.toList_append]
    rfl
  have hne : (p.stem name owner).toList ≠ [] := fun hnil =>
    (hasWord_stem h name owner).ne_dots.1 (String.toList_eq_nil_iff.mp hnil)
  rw [stripExtension_append hchars hdot, if_neg hne, String.ofList_toList]

end NamingPolicy

end DomainGen
