import DomainGen.Text.Lines
import Mathlib.Data.List.Basic
import Mathlib.Data.List.Count

/-!
# Pieces of a text

What cutting a text at a separator gives, piece by piece.

* `splitAt_sep`, `splitAt_cons`, `splitAt_append` : the pieces of a longer text; `splitAt_concat` : those
  of two texts with a separator between them; `splitAt_append_last` : those of a text with more behind it;
* `splitAt_intercalate` : **cutting a text at the separators it was joined with gives the pieces back**;
* `not_mem_of_mem_splitAt`, `mem_of_mem_splitAt`, `eq_or_mem_splitAt` : which characters are in a piece;
* `splitAt_filter`, `length_splitAt` : the pieces of a text with some characters left out, and their
  number.
-/

namespace DomainGen

open Text

variable {sep : Char}

theorem splitAt_sep (rest : List Char) : splitAt sep (sep :: rest) = [] :: splitAt sep rest := by
  obtain ⟨piece, pieces, h⟩ := List.exists_cons_of_ne_nil (splitAt_ne_nil sep rest)
  simp only [splitAt, h, beq_self_eq_true, if_true]

/-- A character other than the separator begins the first piece. -/
theorem splitAt_cons {c : Char} {rest piece : List Char} {pieces : List (List Char)} (hc : c ≠ sep)
    (hr : splitAt sep rest = piece :: pieces) : splitAt sep (c :: rest) = (c :: piece) :: pieces := by
  simp only [splitAt, hr, beq_eq_false_iff_ne.mpr hc, Bool.false_eq_true, if_false]

/-- Characters other than the separator extend the first piece. -/
theorem splitAt_append {piece : List Char} {pieces : List (List Char)} {rest : List Char}
    (hr : splitAt sep rest = piece :: pieces) : ∀ {front : List Char}, sep ∉ front →
    splitAt sep (front ++ rest) = (front ++ piece) :: pieces
  | [], _ => hr
  | c :: _, h =>
      have hc : c ≠ sep := fun e => h (e ▸ List.mem_cons_self)
      splitAt_cons hc (splitAt_append hr fun hm => h (List.mem_cons_of_mem c hm))

theorem splitAt_of_not_mem {s : List Char} (h : sep ∉ s) : splitAt sep s = [s] := by
  have hs : splitAt sep (s ++ []) = [s ++ []] := splitAt_append rfl h
  rw [List.append_nil] at hs
  exact hs

/-- The pieces of two texts with a separator between them. -/
theorem splitAt_concat (t : List Char) : ∀ s : List Char,
    splitAt sep (s ++ sep :: t) = splitAt sep s ++ splitAt sep t
  | [] => splitAt_sep t
  | c :: s => by
      have ih : splitAt sep (s ++ sep :: t) = splitAt sep s ++ splitAt sep t := splitAt_concat t s
      by_cases hc : c = sep
      · subst hc
        rw [List.cons_append, splitAt_sep, splitAt_sep, ih, List.cons_append]
      · obtain ⟨piece, pieces, hs⟩ := List.exists_cons_of_ne_nil (splitAt_ne_nil sep s)
        rw [hs, List.cons_append] at ih
        rw [List.cons_append, splitAt_cons hc ih, splitAt_cons hc hs, List.cons_append]

/-- The pieces of a text with more behind it that has no separator. -/
theorem splitAt_append_last {t : List Char} (ht : sep ∉ t) : ∀ s : List Char, ∃ front last,
    splitAt sep s = front ++ [last] ∧ splitAt sep (s ++ t) = front ++ [last ++ t]
  | [] => ⟨[], [], rfl, splitAt_of_not_mem ht⟩
  | c :: s => by
      obtain ⟨front, last, hs, hst⟩ := splitAt_append_last ht s
      by_cases hc : c = sep
      · subst hc
        refine ⟨[] :: front, last, ?_, ?_⟩
        · rw [splitAt_sep, hs, List.cons_append]
        · rw [List.cons_append, splitAt_sep, hst, List.cons_append]
      · cases front with
        | nil => exact ⟨[], c :: last, splitAt_cons hc hs, splitAt_cons hc hst⟩
        | cons piece front => exact ⟨(c :: piece) :: front, last, splitAt_cons hc hs, splitAt_cons hc hst⟩

/-- **Cutting a text at the separators it was joined with gives the pieces back.** -/
theorem splitAt_intercalate : ∀ {pieces : List (List Char)}, pieces ≠ [] →
    (∀ piece ∈ pieces, sep ∉ piece) → splitAt sep ([sep].intercalate pieces) = pieces
  | [], hne, _ => absurd rfl hne
  | [piece], _, h => by
      rw [List.intercalate_singleton]
      exact splitAt_of_not_mem (h piece List.mem_cons_self)
  | piece :: next :: pieces, _, h => by
      have ih := splitAt_intercalate (List.cons_ne_nil next pieces)
        fun p hp => h p (List.mem_cons_of_mem piece hp)
      have hsep : splitAt sep (sep :: [sep].intercalate (next :: pieces)) =
          [] :: next :: pieces := by
        rw [splitAt_sep, ih]
      rw [List.intercalate_cons_cons, List.append_assoc, List.singleton_append]
      have hall := splitAt_append hsep (h piece List.mem_cons_self)
      rw [List.append_nil] at hall
      exact hall

theorem not_mem_of_mem_splitAt : ∀ {s piece : List Char}, piece ∈ splitAt sep s → sep ∉ piece
  | [], piece, h => by
      rw [List.mem_singleton.mp h]
      exact List.not_mem_nil
  | c :: rest, piece, h => by
      obtain ⟨first, pieces, hr⟩ := List.exists_cons_of_ne_nil (splitAt_ne_nil sep rest)
      have ih : ∀ p ∈ first :: pieces, sep ∉ p := fun p hp => not_mem_of_mem_splitAt (hr ▸ hp)
      by_cases hc : c = sep
      · subst hc
        rw [splitAt_sep, hr] at h
        rcases List.mem_cons.mp h with rfl | h
        · exact List.not_mem_nil
        · exact ih piece h
      · rw [splitAt_cons hc hr] at h
        rcases List.mem_cons.mp h with rfl | h
        · exact fun hm => (List.mem_cons.mp hm).elim (fun he => hc he.symm)
            (ih first List.mem_cons_self)
        · exact ih piece (List.mem_cons_of_mem first h)

/-- What is in a piece is in the text. -/
theorem mem_of_mem_splitAt {sep c : Char} : ∀ {s piece : List Char}, piece ∈ splitAt sep s →
    c ∈ piece → c ∈ s
  | [], piece, h, hc => by
      rw [List.mem_singleton.mp h] at hc
      exact hc
  | d :: s, piece, h, hc => by
      obtain ⟨first, pieces, hs⟩ := List.exists_cons_of_ne_nil (splitAt_ne_nil sep s)
      have ih : ∀ p ∈ first :: pieces, c ∈ p → c ∈ s := fun p hp => mem_of_mem_splitAt (hs ▸ hp)
      by_cases hd : d = sep
      · subst hd
        rw [splitAt_sep] at h
        rcases List.mem_cons.mp h with rfl | h
        · cases hc
        · exact List.mem_cons_of_mem d (mem_of_mem_splitAt h hc)
      · rw [splitAt_cons hd hs] at h
        rcases List.mem_cons.mp h with rfl | h
        · rcases List.mem_cons.mp hc with rfl | hc
          · exact List.mem_cons_self
          · exact List.mem_cons_of_mem d (ih first List.mem_cons_self hc)
        · exact List.mem_cons_of_mem d (ih piece (List.mem_cons_of_mem first h) hc)

/-- A character of the text is a separator or in a piece. -/
theorem eq_or_mem_splitAt {sep c : Char} : ∀ {s : List Char}, c ∈ s →
    c = sep ∨ ∃ piece ∈ splitAt sep s, c ∈ piece
  | d :: s, h => by
      obtain ⟨first, pieces, hs⟩ := List.exists_cons_of_ne_nil (splitAt_ne_nil sep s)
      by_cases hd : d = sep
      · rcases List.mem_cons.mp h with rfl | h
        · exact .inl hd
        · subst hd
          rw [splitAt_sep]
          exact (eq_or_mem_splitAt h).imp id fun ⟨p, hp, hc⟩ => ⟨p, List.mem_cons_of_mem _ hp, hc⟩
      · rw [splitAt_cons hd hs]
        rcases List.mem_cons.mp h with rfl | h
        · exact .inr ⟨c :: first, List.mem_cons_self, List.mem_cons_self⟩
        · rcases eq_or_mem_splitAt h with hsep | ⟨p, hp, hc⟩
          · exact .inl hsep
          · rw [hs] at hp
            rcases List.mem_cons.mp hp with rfl | hp
            · exact .inr ⟨d :: p, List.mem_cons_self, List.mem_cons_of_mem d hc⟩
            · exact .inr ⟨p, List.mem_cons_of_mem _ hp, hc⟩

/-- Where the separators stay, characters are left out of each piece by itself. -/
theorem splitAt_filter {keep : Char → Bool} (h : keep sep = true) : ∀ s : List Char,
    splitAt sep (s.filter keep) = (splitAt sep s).map (List.filter keep)
  | [] => rfl
  | c :: s => by
      have ih := splitAt_filter h s
      by_cases hc : c = sep
      · subst hc
        rw [List.filter_cons_of_pos h, splitAt_sep, splitAt_sep, ih, List.map_cons, List.filter_nil]
      · obtain ⟨piece, pieces, hs⟩ := List.exists_cons_of_ne_nil (splitAt_ne_nil sep s)
        rw [hs, List.map_cons] at ih
        rw [splitAt_cons hc hs, List.map_cons]
        cases hkeep : keep c with
        | true =>
            rw [List.filter_cons_of_pos hkeep, List.filter_cons_of_pos hkeep, splitAt_cons hc ih]
        | false =>
            have hleft : ¬ keep c = true := by simp [hkeep]
            rw [List.filter_cons_of_neg hleft, List.filter_cons_of_neg hleft, ih]

/-- There is one piece more than there are separators. -/
theorem length_splitAt : ∀ s : List Char, (splitAt sep s).length = s.count sep + 1
  | [] => rfl
  | c :: s => by
      have ih := length_splitAt s
      by_cases hc : c = sep
      · subst hc
        rw [splitAt_sep, List.length_cons, ih, List.count_cons_self]
      · obtain ⟨piece, pieces, hs⟩ := List.exists_cons_of_ne_nil (splitAt_ne_nil sep s)
        rw [hs] at ih
        rw [splitAt_cons hc hs, List.count_cons_of_ne hc]
        exact ih

end DomainGen
