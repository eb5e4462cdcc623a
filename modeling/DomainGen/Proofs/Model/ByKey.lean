import DomainGen.Model.Reading
import DomainGen.Proofs.Distinct
import Mathlib.Data.List.Induction
import Mathlib.Data.List.Nodup

/-!
# Items by their keys

Items are put into a list one after the other, each by its key. Of several with one key the last one
is left, at the place of the first.

* `collected` : what is left;
* `map_collected` : its keys; `mem_collected_iff` : its items;
* `collected_eq_self`, `length_collected_eq_iff` : **nothing gets lost exactly if all keys are
  different**.
-/

namespace DomainGen

variable {α : Type} (key : α → String) {items l : List α} {x y : α}

/-- The keys after an item was put: a new one stands at the end, all others stay. -/
theorem map_putByKey (x : α) (l : List α) : (putByKey key x l).map key =
    if key x ∈ l.map key then l.map key else l.map key ++ [key x] := by
  induction l with
  | nil => rfl
  | cons y rest ih =>
      unfold putByKey
      by_cases h : key y = key x
      · simp [h]
      · have h' : ¬ key x = key y := fun e => h e.symm
        simp only [beq_iff_eq, h, if_false, List.map_cons, ih, List.mem_cons, h', false_or]
        split <;> rfl

/-- What is left of some items that are put one after the other. -/
def collected (items : List α) : List α :=
  items.foldl (fun read x => putByKey key x read) []

theorem collected_concat (items : List α) (x : α) :
    collected key (items ++ [x]) = putByKey key x (collected key items) := by
  unfold collected
  rw [List.foldl_append]
  rfl

/-- The keys of what is left: each key once, in the order in which the keys came. -/
theorem map_collected (items : List α) :
    (collected key items).map key = (items.map key).eraseDups := by
  induction items using List.reverseRecOn with
  | nil => rfl
  | append_singleton items x ih =>
      rw [collected_concat, map_putByKey, ih, List.map_append]
      by_cases hx : key x ∈ items.map key
      · rw [if_pos (List.mem_eraseDups.mpr hx)]
        exact (eraseDups_concat_mem hx).symm
      · rw [if_neg fun h => hx (List.mem_eraseDups.mp h)]
        exact (eraseDups_concat_not_mem hx).symm

theorem nodup_collected (items : List α) : ((collected key items).map key).Nodup := by
  rw [map_collected]
  exact nodup_eraseDups _

variable {key}

/-- An item with a new key goes to the end. -/
theorem putByKey_of_not_mem (h : key x ∉ l.map key) : putByKey key x l = l ++ [x] := by
  induction l with
  | nil => rfl
  | cons y rest ih =>
      rw [List.map_cons, List.mem_cons, not_or] at h
      unfold putByKey
      rw [if_neg fun hyx => h.1 (beq_iff_eq.mp hyx).symm, ih h.2]
      rfl

/-- After an item was put, it is there, and so is everything with another key. -/
theorem mem_putByKey_iff (h : (l.map key).Nodup) :
    y ∈ putByKey key x l ↔ y = x ∨ y ∈ l ∧ key y ≠ key x := by
  induction l with
  | nil => simp [putByKey]
  | cons z rest ih =>
      rw [List.map_cons, List.nodup_cons] at h
      unfold putByKey
      by_cases hz : key z = key x
      · have hrest : ∀ w ∈ rest, key w ≠ key x := fun w hw heq =>
          h.1 (List.mem_map.mpr ⟨w, hw, heq.trans hz.symm⟩)
        rw [if_pos (beq_iff_eq.mpr hz), List.mem_cons, List.mem_cons]
        constructor
        · rintro (rfl | hy)
          · exact Or.inl rfl
          · exact Or.inr ⟨Or.inr hy, hrest y hy⟩
        · rintro (rfl | ⟨rfl | hy, hyx⟩)
          · exact Or.inl rfl
          · exact absurd hz hyx
          · exact Or.inr hy
      · rw [if_neg fun hzx => hz (beq_iff_eq.mp hzx), List.mem_cons, ih h.2, List.mem_cons]
        constructor
        · rintro (rfl | rfl | ⟨hy, hyx⟩)
          · exact Or.inr ⟨Or.inl rfl, hz⟩
          · exact Or.inl rfl
          · exact Or.inr ⟨Or.inr hy, hyx⟩
        · rintro (rfl | ⟨rfl | hy, hyx⟩)
          · exact Or.inr (Or.inl rfl)
          · exact Or.inl rfl
          · exact Or.inr (Or.inr ⟨hy, hyx⟩)

variable (key) in
/-- No later item has the key of this one. -/
def IsLast (items : List α) (x : α) : Prop :=
  ∃ before after, items = before ++ x :: after ∧ ∀ y ∈ after, key y ≠ key x

theorem isLast_concat :
    IsLast key (items ++ [x]) y ↔ y = x ∨ IsLast key items y ∧ key y ≠ key x := by
  constructor
  · rintro ⟨before, after, heq, hafter⟩
    rcases List.eq_nil_or_concat after with rfl | ⟨after, z, rfl⟩
    · exact Or.inl (List.append_inj_right' heq rfl |> List.singleton_inj.mp).symm
    · rw [List.concat_eq_append, ← List.cons_append, ← List.append_assoc] at heq
      obtain ⟨rfl, hzx⟩ := List.append_inj' heq rfl
      cases List.singleton_inj.mp hzx
      have hz := hafter x (List.concat_eq_append ▸ List.mem_append_right after List.mem_cons_self)
      exact Or.inr ⟨⟨before, after, rfl, fun w hw =>
        hafter w (List.concat_eq_append ▸ List.mem_append_left [x] hw)⟩, fun h => hz h.symm⟩
  · rintro (rfl | ⟨⟨before, after, rfl, hafter⟩, hne⟩)
    · exact ⟨items, [], rfl, fun w hw => absurd hw List.not_mem_nil⟩
    · refine ⟨before, after ++ [x], by simp only [List.append_assoc, List.cons_append], ?_⟩
      intro w hw
      rcases List.mem_append.mp hw with hw | hw
      · exact hafter w hw
      · cases List.mem_singleton.mp hw
        exact fun h => hne h.symm

/-- **The last item of each key is left.** -/
theorem mem_collected_iff : x ∈ collected key items ↔ IsLast key items x := by
  induction items using List.reverseRecOn with
  | nil =>
      refine ⟨fun h => absurd h List.not_mem_nil, ?_⟩
      rintro ⟨before, after, heq, _⟩
      cases before <;> cases heq
  | append_singleton items z ih =>
      rw [collected_concat, mem_putByKey_iff (nodup_collected key items), ih, isLast_concat]

/-- Items with different keys are all left, in their order. -/
theorem collected_eq_self (h : (items.map key).Nodup) : collected key items = items := by
  induction items using List.reverseRecOn with
  | nil => rfl
  | append_singleton items x ih =>
      rw [List.map_append, List.map_singleton, ← List.concat_eq_append, List.nodup_concat] at h
      rw [collected_concat, ih h.2, putByKey_of_not_mem h.1]

/-- **As many items are left exactly if all keys are different.** -/
theorem length_collected_eq_iff :
    (collected key items).length = items.length ↔ (items.map key).Nodup := by
  rw [← length_eraseDups_eq_iff, ← map_collected, List.length_map, List.length_map]

/-! ## Items made of others -/

section Made

variable {β : Type} {f : β → α} {made : List β}

/-- The last item of a key is made of the last one that makes the key. -/
theorem isLast_map : IsLast key (made.map f) x ↔ ∃ y, IsLast (key ∘ f) made y ∧ f y = x := by
  constructor
  · rintro ⟨before, after, heq, hafter⟩
    obtain ⟨front, rest, rfl, rfl, hrest⟩ := List.map_eq_append_iff.mp heq
    obtain ⟨y, back, rfl, rfl, rfl⟩ := List.map_eq_cons_iff.mp hrest
    exact ⟨y, ⟨front, back, rfl, fun z hz => hafter (f z) (List.mem_map_of_mem hz)⟩, rfl⟩
  · rintro ⟨y, ⟨front, back, rfl, hback⟩, rfl⟩
    refine ⟨front.map f, back.map f, by rw [List.map_append, List.map_cons], fun z hz => ?_⟩
    obtain ⟨w, hw, rfl⟩ := List.mem_map.mp hz
    exact hback w hw

theorem map_collected_map :
    (collected key (made.map f)).map key = (made.map (key ∘ f)).eraseDups := by
  rw [map_collected, List.map_map]

theorem mem_collected_map :
    x ∈ collected key (made.map f) ↔ ∃ y, IsLast (key ∘ f) made y ∧ f y = x :=
  mem_collected_iff.trans isLast_map

theorem length_collected_map_iff :
    (collected key (made.map f)).length = made.length ↔ (made.map (key ∘ f)).Nodup := by
  rw [← List.map_map, ← length_collected_eq_iff, List.length_map]

end Made

end DomainGen
