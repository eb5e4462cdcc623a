import Mathlib.Data.List.Dedup
import Mathlib.Data.List.Induction

/-!
# Each value once

Of several items with one value the first one keeps its place. What is left has each value once, and
nothing is left out exactly if no value came twice.
-/

namespace DomainGen

variable {α : Type} [BEq α] [LawfulBEq α] {l : List α} {x : α}

/-- A value that was there before changes nothing. -/
theorem eraseDups_concat_mem (h : x ∈ l) : (l ++ [x]).eraseDups = l.eraseDups := by
  have gone : [x].removeAll l = [] := by
    rw [List.removeAll, List.filter_eq_nil_iff]
    intro y hy
    rw [List.mem_singleton.mp hy, List.elem_eq_true_of_mem h]
    exact Bool.false_ne_true
  rw [List.eraseDups_append, gone, List.eraseDups_nil, List.append_nil]

/-- A value that is new stands behind the others. -/
theorem eraseDups_concat_not_mem (h : x ∉ l) : (l ++ [x]).eraseDups = l.eraseDups ++ [x] := by
  have left : [x].removeAll l = [x] := by
    rw [List.removeAll, List.filter_eq_self]
    intro y hy
    rw [List.mem_singleton.mp hy, Bool.not_eq_true', ← Bool.not_eq_true, List.elem_iff]
    exact h
  rw [List.eraseDups_append, left]
  rfl

variable (l) in
theorem nodup_eraseDups : l.eraseDups.Nodup := by
  induction l using List.reverseRecOn with
  | nil => exact List.nodup_nil
  | append_singleton l x ih =>
      by_cases hx : x ∈ l
      · rwa [eraseDups_concat_mem hx]
      · rw [eraseDups_concat_not_mem hx, ← List.concat_eq_append]
        exact ih.concat fun hmem => hx (List.mem_eraseDups.mp hmem)

/-- Different values all stay. -/
theorem eraseDups_eq_self (h : l.Nodup) : l.eraseDups = l := by
  induction l using List.reverseRecOn with
  | nil => rfl
  | append_singleton l x ih =>
      rw [← List.concat_eq_append, List.nodup_concat] at h
      rw [eraseDups_concat_not_mem h.1, ih h.2]

variable (l) in
theorem length_eraseDups_le : l.eraseDups.length ≤ l.length := by
  induction l using List.reverseRecOn with
  | nil => exact Nat.le_refl 0
  | append_singleton l x ih =>
      by_cases hx : x ∈ l
      · rw [eraseDups_concat_mem hx, List.length_append]
        omega
      · rw [eraseDups_concat_not_mem hx, List.length_append, List.length_append]
        omega

/-- **As many values are left exactly if all were different.** -/
theorem length_eraseDups_eq_iff : l.eraseDups.length = l.length ↔ l.Nodup := by
  refine ⟨fun h => ?_, fun h => congrArg List.length (eraseDups_eq_self h)⟩
  induction l using List.reverseRecOn with
  | nil => exact List.nodup_nil
  | append_singleton l x ih =>
      have hle := length_eraseDups_le l
      by_cases hx : x ∈ l
      · rw [eraseDups_concat_mem hx, List.length_append, List.length_singleton] at h
        omega
      · rw [eraseDups_concat_not_mem hx, List.length_append, List.length_append] at h
        rw [← List.concat_eq_append]
        exact (ih (by omega)).concat hx

end DomainGen
