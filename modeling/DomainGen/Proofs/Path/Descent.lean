import DomainGen.Proofs.Path.Spelling
import DomainGen.Proofs.Text.Case

/-!
# Paths that only lead down

A path that is relative and has no double dot leads to a place below the one it is read from. What
decides it are the slashes and dots of its text, so a text can be respelled -- capitalised, put in
lower case, hyphenated -- without any change to where it leads.

* `Path.Descends` : relative, without a double dot; `descends_joinPath` : **joined parts descend
  exactly if each of them does**;
* `Respelled` : the same slashes and dots, and something else for everything else;
* `Respelled.descends_iff` : **a respelled text descends exactly if the text does**.
-/

namespace DomainGen

open Text

/-! ## 1. Descending paths -/

namespace Path

/-- The path is relative and has no double dot. -/
def Descends (p : Path) : Prop := p.isAbsolute = false ∧ ".." ∉ p.components

instance (p : Path) : Decidable p.Descends := inferInstanceAs (Decidable (_ ∧ _))

theorem descends_current : current.Descends := by decide

/-- An absolute part puts the result at the root of the file system, and a double dot of a part
    stays in the result. -/
theorem descends_append {p q : Path} : (p.append q).Descends ↔ p.Descends ∧ q.Descends := by
  obtain ⟨root, cs⟩ := q
  cases root with
  | relative =>
      have happend : p.append ⟨.relative, cs⟩ = ⟨p.root, p.components ++ cs⟩ := rfl
      have hrelative : (Path.mk .relative cs).isAbsolute = false := rfl
      unfold Descends
      rw [happend, hrelative]
      show (p.isAbsolute = false ∧ ".." ∉ p.components ++ cs) ↔ _
      rw [List.mem_append, not_or]
      exact ⟨fun h => ⟨⟨h.1, h.2.1⟩, rfl, h.2.2⟩, fun h => ⟨h.1.1, h.1.2, h.2.2⟩⟩
  | single => exact ⟨fun h => Bool.noConfusion h.1, fun h => h.2⟩
  | double => exact ⟨fun h => Bool.noConfusion h.1, fun h => h.2⟩

theorem descends_foldl_append : ∀ {ps : List Path} {p : Path},
    (ps.foldl append p).Descends ↔ p.Descends ∧ ∀ q ∈ ps, q.Descends
  | [], p => ⟨fun h => ⟨h, fun _ hq => absurd hq List.not_mem_nil⟩, And.left⟩
  | q :: ps, p => by
      rw [List.foldl_cons, descends_foldl_append, descends_append, List.forall_mem_cons, and_assoc]

/-- **Joined parts descend exactly if each of them does.** -/
theorem descends_joinPath {parts : List String} :
    (ofString (joinPath parts)).Descends ↔ ∀ s ∈ parts, (ofString s).Descends := by
  rw [ofString_joinPath]
  unfold join
  rw [descends_foldl_append, List.forall_mem_map]
  exact ⟨And.right, fun h => ⟨descends_current, h⟩⟩

end Path

/-! ## 2. Respelled texts -/

/-- The characters that decide where a path leads. -/
def isMark (c : Char) : Bool := c == '/' || c == '.'

/-- The second text has the slashes and dots of the first, and some other characters in place of
    each other character. -/
inductive Respelled : List Char → List Char → Prop
  | nil : Respelled [] []
  | mark {c : Char} {s t : List Char} (hc : isMark c = true) (h : Respelled s t) :
      Respelled (c :: s) (c :: t)
  | word {c : Char} {s t image : List Char} (hc : isMark c = false) (hne : image ≠ [])
      (himage : ∀ d ∈ image, isMark d = false) (h : Respelled s t) :
      Respelled (c :: s) (image ++ t)

theorem isMark_iff {c : Char} : isMark c = true ↔ c = '/' ∨ c = '.' := by
  unfold isMark
  rw [Bool.or_eq_true_iff, beq_iff_eq, beq_iff_eq]

theorem isMark_of_lt {c : Char} (h : 47 < c.toNat) : isMark c = false := by
  refine Bool.eq_false_iff.mpr fun hc => ?_
  rcases isMark_iff.mp hc with rfl | rfl
  · exact absurd h (by decide)
  · exact absurd h (by decide)

namespace Respelled

variable {s t u v : List Char}

/-- A character and a form of it that is the character or a word, provided a mark is its own
    form. -/
theorem cons {c : Char} {form : List Char} (hform : form = [c] ∨ IsWord form)
    (hmark : isMark c = true → form = [c]) (h : Respelled s t) :
    Respelled (c :: s) (form ++ t) := by
  cases hc : isMark c with
  | true =>
      rw [hmark hc]
      exact mark hc h
  | false =>
      rcases hform with rfl | ⟨hne, hletters⟩
      · exact word hc (List.cons_ne_nil _ _) (fun d hd => List.mem_singleton.mp hd ▸ hc) h
      · exact word hc hne (fun d hd => isMark_of_lt (hletters d hd)) h

protected theorem refl : ∀ s : List Char, Respelled s s
  | [] => nil
  | _ :: rest => cons (Or.inl rfl) (fun _ => rfl) (Respelled.refl rest)

theorem append (h : Respelled s t) (h' : Respelled u v) : Respelled (s ++ u) (t ++ v) := by
  induction h with
  | nil => exact h'
  | mark hc _ ih => exact mark hc ih
  | word hc hne himage _ ih =>
      rw [List.append_assoc]
      exact word hc hne himage ih

/-! ## 3. Where a respelled text leads -/

theorem takeWhile_slash (h : Respelled s t) :
    s.takeWhile (· == '/') = t.takeWhile (· == '/') := by
  induction h with
  | nil => rfl
  | mark _ _ ih => rw [List.takeWhile_cons, List.takeWhile_cons, ih]
  | word hc hne himage _ _ =>
      obtain ⟨d, ds, rfl⟩ := List.exists_cons_of_ne_nil hne
      have hslash : ∀ {e : Char}, isMark e = false → (e == '/') = false := fun he =>
        (Bool.or_eq_false_iff.mp he).1
      rw [List.cons_append, List.takeWhile_cons, List.takeWhile_cons, hslash hc,
        hslash (himage d List.mem_cons_self)]
      rfl

/-- The pieces between slashes are respelled one by one. -/
theorem splitAt_slash (h : Respelled s t) :
    List.Forall₂ Respelled (splitAt '/' s) (splitAt '/' t) := by
  -- the pieces of a text whose front has no slash, from those of the rest
  have front : ∀ {a b s t : List Char}, Respelled a b → '/' ∉ a → '/' ∉ b →
      List.Forall₂ Respelled (splitAt '/' s) (splitAt '/' t) →
      List.Forall₂ Respelled (splitAt '/' (a ++ s)) (splitAt '/' (b ++ t)) := by
    intro a b s t hab ha hb hst
    obtain ⟨piece, pieces, hs⟩ := List.exists_cons_of_ne_nil (splitAt_ne_nil '/' s)
    obtain ⟨piece', pieces', ht⟩ := List.exists_cons_of_ne_nil (splitAt_ne_nil '/' t)
    rw [hs, ht] at hst
    rw [splitAt_append hs ha, splitAt_append ht hb]
    obtain ⟨hpiece, hpieces⟩ := List.forall₂_cons.mp hst
    exact .cons (hab.append hpiece) hpieces
  induction h with
  | nil => exact .cons nil .nil
  | mark hc _ ih =>
      rename_i c s t _
      by_cases hslash : c = '/'
      · subst hslash
        rw [splitAt_sep, splitAt_sep]
        exact .cons nil ih
      · have hnone : '/' ∉ [c] := fun hm => hslash (List.mem_singleton.mp hm).symm
        exact front (mark hc nil) hnone hnone ih
  | word hc hne himage _ ih =>
      rename_i c s t image _
      have hnone : '/' ∉ [c] := by
        intro hm
        rw [← List.mem_singleton.mp hm] at hc
        cases hc
      have hnone' : '/' ∉ image := fun hm => absurd (himage '/' hm) (by decide)
      refine front ?_ hnone hnone' ih
      have hword : Respelled [c] (image ++ []) := word hc hne himage nil
      rw [List.append_nil] at hword
      exact hword

/-- A text of slashes and dots is respelled as itself only, and nothing else is respelled so. -/
theorem eq_iff_marks (h : Respelled s t) (hu : ∀ c ∈ u, isMark c = true) : s = u ↔ t = u := by
  induction h generalizing u with
  | nil => exact Iff.rfl
  | mark _ _ ih =>
      cases u with
      | nil => exact iff_of_false (List.cons_ne_nil _ _) (List.cons_ne_nil _ _)
      | cons d u =>
          have ih := @ih u fun c hc => hu c (List.mem_cons_of_mem d hc)
          rw [List.cons.injEq, List.cons.injEq, ih]
  | word hc hne himage _ _ =>
      obtain ⟨d, ds, rfl⟩ := List.exists_cons_of_ne_nil hne
      constructor
      · rintro rfl
        rw [hu _ List.mem_cons_self] at hc
        cases hc
      · rintro rfl
        have hd := himage d List.mem_cons_self
        rw [hu d List.mem_cons_self] at hd
        cases hd

theorem mem_iff_marks {ss ts : List (List Char)} (h : List.Forall₂ Respelled ss ts)
    (hu : ∀ c ∈ u, isMark c = true) : u ∈ ss ↔ u ∈ ts := by
  induction h with
  | nil => exact Iff.rfl
  | cons hpiece _ ih =>
      have heq := hpiece.eq_iff_marks hu
      rw [List.mem_cons, List.mem_cons, ih, eq_comm, heq, eq_comm]

/-- A double dot is a component exactly if it is a piece between slashes. -/
theorem climb_mem_componentsOfChars (s : List Char) :
    ".." ∈ Path.componentsOfChars s ↔ ['.', '.'] ∈ splitAt '/' s := by
  unfold Path.componentsOfChars
  rw [List.mem_filter, List.mem_map]
  constructor
  · rintro ⟨⟨piece, hpiece, heq⟩, _⟩
    have hchars := congrArg String.toList heq
    rw [String.toList_ofList] at hchars
    rw [hchars] at hpiece
    exact hpiece
  · intro h
    exact ⟨⟨_, h, by decide +kernel⟩, by decide +kernel⟩

/-- **A respelled text descends exactly if the text does.** -/
theorem descends_iff {s t : String} (h : Respelled s.toList t.toList) :
    (Path.ofString s).Descends ↔ (Path.ofString t).Descends := by
  have hdots : ∀ c ∈ ['.', '.'], isMark c = true :=
    List.forall_mem_cons.mpr ⟨by decide, List.forall_mem_singleton.mpr (by decide)⟩
  have hroot : PathRoot.ofChars s.toList = PathRoot.ofChars t.toList := by
    unfold PathRoot.ofChars
    rw [h.takeWhile_slash]
  unfold Path.Descends
  rw [Path.ofString_toList, Path.ofString_toList, hroot, climb_mem_componentsOfChars,
    climb_mem_componentsOfChars, mem_iff_marks h.splitAt_slash hdots]
  exact Iff.rfl

end Respelled

/-! ## 4. Case mappings -/

theorem upperChar_mark {c : Char} (h : isMark c = true) : upperChar c = [c] := by
  rcases isMark_iff.mp h with rfl | rfl <;> decide

theorem lowerChar_mark {c : Char} (h : isMark c = true) : lowerChar c = [c] := by
  rcases isMark_iff.mp h with rfl | rfl <;> decide

theorem respelled_capitalize (s : List Char) : Respelled s (capitalize s) := by
  cases s with
  | nil => exact .nil
  | cons c rest => exact .cons (upperChar_cases c) upperChar_mark (.refl rest)

theorem respelled_lowerAfter : ∀ before s : List Char, Respelled s (lowerAfter before s)
  | _, [] => .nil
  | before, c :: rest => by
      have ih := respelled_lowerAfter (c :: before) rest
      unfold lowerAfter
      split
      · rename_i hsigma
        obtain rfl := beq_iff_eq.mp hsigma
        refine .word (by decide) (List.cons_ne_nil _ _) (fun d hd => ?_) ih
        rw [List.mem_singleton.mp hd]
        split <;> decide
      · exact .cons (lowerChar_cases c) lowerChar_mark ih

theorem respelled_lower (s : List Char) : Respelled s (lower s) := respelled_lowerAfter [] s

end DomainGen
