import DomainGen.Data.Entries
import DomainGen.Proofs.Data.Keys
import DomainGen.Proofs.Data.Overriding

/-!
# Mappings with proper keys

In a mapping no two keys are the same, and so it is in the mappings nested in it. What such a mapping
has under a key does not depend on how the key is written.

* `Data.isKeyed` : nested mappings whose keys are keys, no two of them the same;
* `lookup?_put` : **writing an entry changes what its key has, and nothing else**;
* `lookup?_of_mem` : every entry is found; `areKeyed_put` : writing keeps the keys proper;
* `update_of_new` : entries with new keys go to the end;
* `ext_lookup?` : **entries with the same keys that have the same values are the same**.
-/

namespace DomainGen

/-! ## 1. Proper keys -/

namespace Data

mutual

/-- Are the keys of a mapping and of all mappings nested in it keys, and no two of one mapping the
    same? -/
def isKeyed : Data → Bool
  | .mapping es => areKeyed es
  | _ => true

/-- Are the keys of some entries keys, no two the same, and are their values so too? -/
def areKeyed : List (Data × Data) → Bool
  | [] => true
  | (k, v) :: rest => k.isKey && !Entries.has rest k && isKeyed v && areKeyed rest

end

theorem areKeyed_cons {k v : Data} {rest : Entries} :
    areKeyed ((k, v) :: rest) = true ↔ k.isKey = true ∧ Entries.has rest k = false ∧
      v.isKeyed = true ∧ areKeyed rest = true := by
  simp only [areKeyed, Bool.and_eq_true, Bool.not_eq_true', and_assoc]

end Data

/-! ## 2. One key -/

namespace Entries

open Data

/-- All keys are keys. -/
def HasKeys (es : Entries) : Prop := ∀ e ∈ es, e.1.isKey = true

theorem hasKeys_of_areKeyed : ∀ {es : Entries}, areKeyed es = true → HasKeys es
  | [], _ => fun _ he => absurd he List.not_mem_nil
  | (k, v) :: rest, h => by
      obtain ⟨hk, _, _, hrest⟩ := areKeyed_cons.mp h
      intro e he
      rcases List.mem_cons.mp he with rfl | he
      · exact hk
      · exact hasKeys_of_areKeyed hrest e he

theorem lookup?_cons (k v : Data) (rest : Entries) (x : Data) :
    lookup? ((k, v) :: rest) x = if k.sameKey x then some v else lookup? rest x := by
  unfold lookup?
  rw [List.find?_cons]
  cases k.sameKey x <;> rfl

/-- Entries without a key have no value under it. -/
theorem lookup?_eq_none_of_has {es : Entries} {x : Data} (h : es.has x = false) :
    es.lookup? x = none := by
  unfold lookup?
  rw [Option.map_eq_none_iff, List.find?_eq_none]
  intro e he hx
  have : es.has x = true := List.any_eq_true.mpr ⟨e, he, hx⟩
  rw [h] at this
  cases this

/-- The same keys have the same value. -/
theorem lookup?_congr {es : Entries} {x y : Data} (hes : es.HasKeys) (hx : x.isKey = true)
    (hy : y.isKey = true) (h : x.sameKey y = true) : es.lookup? x = es.lookup? y := by
  induction es with
  | nil => rfl
  | cons e rest ih =>
      obtain ⟨k, v⟩ := e
      have hk : k.isKey = true := hes (k, v) List.mem_cons_self
      have hsame : k.sameKey x = k.sameKey y := by
        rw [sameKey_symm hk hx, sameKey_symm hk hy]
        exact sameKey_congr hx hy hk h
      rw [lookup?_cons, lookup?_cons, hsame,
        ih fun e he => hes e (List.mem_cons_of_mem _ he)]

theorem hasKeys_put : ∀ {es : Entries} {x : Data} (v : Data), HasKeys es → x.isKey = true →
    HasKeys (es.put x v)
  | [], x, v, _, hx => fun e he => by
      rw [List.mem_singleton.mp he]
      exact hx
  | (k, w) :: rest, x, v, hes, hx => by
      intro e he
      unfold put at he
      split at he
      · rcases List.mem_cons.mp he with rfl | he
        · exact hes (k, w) List.mem_cons_self
        · exact hes e (List.mem_cons_of_mem _ he)
      · rcases List.mem_cons.mp he with rfl | he
        · exact hes (k, w) List.mem_cons_self
        · exact hasKeys_put v (fun e he => hes e (List.mem_cons_of_mem _ he)) hx e he

/-- **Writing an entry changes what its key has, and nothing else.** -/
theorem lookup?_put : ∀ {es : Entries} {x y : Data} (v : Data), HasKeys es → x.isKey = true →
    y.isKey = true → (es.put x v).lookup? y = if x.sameKey y then some v else es.lookup? y
  | [], x, y, v, _, _, _ => lookup?_cons x v [] y
  | (k, w) :: rest, x, y, v, hes, hx, hy => by
      have hk : k.isKey = true := hes (k, w) List.mem_cons_self
      have ih := lookup?_put v (fun e he => hes e (List.mem_cons_of_mem (k, w) he)) hx hy
      unfold put
      by_cases hkx : k.sameKey x = true
      · rw [if_pos hkx, lookup?_cons, lookup?_cons, sameKey_congr hk hx hy hkx]
        split <;> rfl
      · rw [if_neg hkx, lookup?_cons, lookup?_cons, ih]
        by_cases hxy : x.sameKey y = true
        · -- a key that is not the same as the one written is not the same as the one sought
          have hky : ¬ k.sameKey y = true := by
            rw [sameKey_symm hk hy, ← sameKey_congr hx hy hk hxy, sameKey_symm hx hk]
            exact hkx
          rw [if_neg hky, if_pos hxy, if_pos hxy]
        · rw [if_neg hxy, if_neg hxy]

/-- Writing what is there changes nothing. -/
theorem put_lookup? : ∀ {es : Entries} {x v : Data}, es.lookup? x = some v → es.put x v = es
  | (k, w) :: rest, x, v, h => by
      rw [lookup?_cons] at h
      unfold put
      split
      · rename_i hk
        rw [if_pos hk] at h
        rw [Option.some.inj h]
      · rename_i hk
        rw [if_neg hk] at h
        rw [put_lookup? h]

theorem isKeyed_of_lookup? {es : Entries} {x v : Data} (hes : areKeyed es = true)
    (h : es.lookup? x = some v) : v.isKeyed = true := by
  induction es with
  | nil => cases h
  | cons e rest ih =>
      obtain ⟨_, _, hv, hrest⟩ := areKeyed_cons.mp hes
      rw [lookup?_cons] at h
      split at h
      · cases h
        exact hv
      · exact ih hrest h

theorem lookup?_of_mem : ∀ {es : Entries} {k v : Data}, areKeyed es = true → (k, v) ∈ es →
    es.lookup? k = some v
  | [], _, _, _, h => absurd h List.not_mem_nil
  | (l, w) :: rest, k, v, hes, h => by
      obtain ⟨hl, hnew, _, hrest⟩ := areKeyed_cons.mp hes
      rw [lookup?_cons]
      rcases List.mem_cons.mp h with heq | h
      · cases heq
        rw [if_pos (sameKey_refl hl)]
      · have hk : k.isKey = true := hasKeys_of_areKeyed hrest _ h
        have hne : ¬ l.sameKey k = true := by
          intro hlk
          rw [sameKey_symm hl hk] at hlk
          have : Entries.has rest l = true := List.any_eq_true.mpr ⟨_, h, hlk⟩
          rw [hnew] at this
          cases this
        rw [if_neg hne]
        exact lookup?_of_mem hrest h

/-- The keys of a proper mapping are different. -/
theorem nodup_of_areKeyed {es : Entries} (h : areKeyed es = true) : (es.map (·.1)).Nodup := by
  induction es with
  | nil => exact List.nodup_nil
  | cons e rest ih =>
      obtain ⟨hkey, hnew, _, hrest⟩ := areKeyed_cons.mp h
      refine List.nodup_cons.mpr ⟨fun hmem => ?_, ih hrest⟩
      obtain ⟨other, hother, hsame⟩ := List.mem_map.mp hmem
      have hhas : has rest e.1 = true :=
        List.any_eq_true.mpr ⟨other, hother, hsame ▸ sameKey_refl hkey⟩
      rw [hnew] at hhas
      cases hhas

theorem isKeyed_of_mem {es : Entries} {e : Data × Data} (h : areKeyed es = true)
    (he : e ∈ es) : e.2.isKeyed = true := by
  induction es with
  | nil => cases he
  | cons first rest ih =>
      obtain ⟨_, _, hv, hrest⟩ := areKeyed_cons.mp h
      rcases List.mem_cons.mp he with rfl | he
      · exact hv
      · exact ih hrest he

theorem has_put : ∀ {es : Entries} {x y : Data} (v : Data), HasKeys es → x.isKey = true →
    y.isKey = true → (es.put x v).has y = (es.has y || x.sameKey y)
  | [], x, y, v, _, _, _ => by simp [put, has]
  | (k, w) :: rest, x, y, v, hes, hx, hy => by
      have hk : k.isKey = true := hes (k, w) List.mem_cons_self
      have ih := has_put v (fun e he => hes e (List.mem_cons_of_mem (k, w) he)) hx hy
      unfold put
      by_cases hkx : k.sameKey x = true
      · rw [if_pos hkx]
        unfold has
        rw [List.any_cons, List.any_cons, ← sameKey_congr hk hx hy hkx]
        cases k.sameKey y <;> simp
      · rw [if_neg hkx]
        unfold has at ih ⊢
        rw [List.any_cons, List.any_cons, ih, Bool.or_assoc]

/-- Writing an entry keeps the keys proper. -/
theorem areKeyed_put : ∀ {es : Entries} {x v : Data}, areKeyed es = true → x.isKey = true →
    v.isKeyed = true → areKeyed (es.put x v) = true
  | [], _, _, _, hx, hv => areKeyed_cons.mpr ⟨hx, rfl, hv, rfl⟩
  | (k, w) :: rest, x, v, hes, hx, hv => by
      obtain ⟨hk, hnew, hw, hrest⟩ := areKeyed_cons.mp hes
      unfold put
      split
      · exact areKeyed_cons.mpr ⟨hk, hnew, hv, hrest⟩
      · rename_i hkx
        refine areKeyed_cons.mpr ⟨hk, ?_, hw, areKeyed_put hrest hx hv⟩
        rw [has_put v (hasKeys_of_areKeyed hrest) hx hk, hnew, sameKey_symm hx hk]
        exact Bool.not_eq_true _ ▸ hkx

theorem areKeyed_update : ∀ {fs es : Entries}, areKeyed es = true → areKeyed fs = true →
    areKeyed (es.update fs) = true
  | [], _, hes, _ => hes
  | (k, v) :: rest, es, hes, hfs => by
      obtain ⟨hk, _, hv, hrest⟩ := areKeyed_cons.mp hfs
      show areKeyed (update (es.put k v) rest) = true
      exact areKeyed_update (areKeyed_put hes hk hv) hrest

/-! ## 3. All keys -/

theorem has_eq_map (es : Entries) (x : Data) : es.has x = (es.map (·.1)).any (·.sameKey x) := by
  unfold has
  rw [List.any_map]
  rfl

/-- Among the keys there are those texts that are keys. -/
theorem has_of_isAmong {es : Entries} {names : List String} {x : Data}
    (hes : es.map (·.1) = names.map .text) (hx : x.isAmong names = true) : es.has x = true := by
  cases x with
  | text s =>
      rw [has_eq_map, hes, List.any_map]
      exact List.any_eq_true.mpr ⟨s, isAmong_iff.mp hx, sameKey_text_iff.mpr rfl⟩
  | _ => cases hx

/-- Keys that are some texts are among them. -/
theorem isAmong_of_map_eq {es : Entries} {names : List String}
    (hes : es.map (·.1) = names.map .text) : ∀ e ∈ es, e.1.isAmong names = true := by
  intro e he
  have hmem := List.mem_map_of_mem (f := (·.1)) he
  rw [hes] at hmem
  obtain ⟨s, hs, heq⟩ := List.mem_map.mp hmem
  rw [← heq]
  exact isAmong_iff.mpr hs

/-- Writing a key that is there keeps the keys. -/
theorem map_put_of_has : ∀ {es : Entries} {x : Data} (v : Data), es.has x = true →
    (es.put x v).map (·.1) = es.map (·.1)
  | [], _, _, h => by cases h
  | (k, w) :: rest, x, v, h => by
      unfold put
      split
      · rfl
      · rename_i hk
        have hrest : has rest x = true := by
          unfold has at h ⊢
          rw [List.any_cons, Bool.or_eq_true] at h
          exact h.resolve_left hk
        exact congrArg (k :: ·) (map_put_of_has v hrest)

/-- Which keys there are after writing depends on the keys alone. -/
theorem map_put_congr : ∀ {es fs : Entries} {x : Data} (v w : Data), es.map (·.1) = fs.map (·.1) →
    (es.put x v).map (·.1) = (fs.put x w).map (·.1)
  | [], [], _, _, _, _ => rfl
  | (k, a) :: es, (l, b) :: fs, x, v, w, h => by
      obtain ⟨hkey, hrest⟩ := List.cons.inj h
      cases hkey
      have ih := map_put_congr (x := x) v w hrest
      unfold put
      split
      · exact congrArg (k :: ·) hrest
      · exact congrArg (k :: ·) ih

/-- A key that is not there goes to the end. -/
theorem put_of_not_has : ∀ {es : Entries} {x : Data} (v : Data), es.has x = false →
    es.put x v = es ++ [(x, v)]
  | [], _, _, _ => rfl
  | (k, w) :: rest, x, v, h => by
      unfold has at h
      rw [List.any_cons, Bool.or_eq_false_iff] at h
      unfold put
      rw [if_neg (by rw [h.1]; exact Bool.false_ne_true)]
      exact congrArg ((k, w) :: ·) (put_of_not_has v h.2)

/-- Entries that are written over the keys that are there keep the keys. -/
theorem map_update_of_has : ∀ {fs es : Entries}, (∀ e ∈ fs, es.has e.1 = true) →
    (es.update fs).map (·.1) = es.map (·.1)
  | [], _, _ => rfl
  | (k, v) :: rest, es, h => by
      obtain ⟨hk, hrest⟩ := List.forall_mem_cons.mp h
      have hkeys := map_put_of_has v hk
      show (update (es.put k v) rest).map (·.1) = _
      rw [map_update_of_has fun e he => ?_, hkeys]
      rw [has_eq_map, hkeys, ← has_eq_map]
      exact hrest e he

/-- Keys stay where they are when an entry is written. -/
theorem prefix_map_put : ∀ (es : Entries) (x v : Data), es.map (·.1) <+: (es.put x v).map (·.1)
  | [], _, _ => List.nil_prefix
  | (k, w) :: rest, x, v => by
      unfold put
      split
      · exact List.prefix_rfl
      · exact List.cons_prefix_cons.mpr ⟨rfl, prefix_map_put rest x v⟩

theorem prefix_map_update : ∀ (fs es : Entries), es.map (·.1) <+: (es.update fs).map (·.1)
  | [], _ => List.prefix_rfl
  | (k, v) :: rest, es => (prefix_map_put es k v).trans (prefix_map_update rest (es.put k v))

/-- If all keys were there before, the keys are kept. -/
theorem map_update_of_known : ∀ {fs es : Entries},
    (∀ k ∈ (es.update fs).map (·.1), es.has k = true) →
    (es.update fs).map (·.1) = es.map (·.1)
  | [], _, _ => rfl
  | (k, v) :: rest, es, h => by
      change ∀ x ∈ (update (es.put k v) rest).map (·.1), es.has x = true at h
      show (update (es.put k v) rest).map (·.1) = _
      cases hk : es.has k with
      | true =>
          have hkeys := map_put_of_has v hk
          rw [map_update_of_known fun x hx => ?_, hkeys]
          rw [has_eq_map, hkeys, ← has_eq_map]
          exact h x hx
      | false =>
          -- a new key would be among the keys
          have hnew : k ∈ (es.put k v).map (·.1) := by
            rw [put_of_not_has v hk, List.map_append]
            exact List.mem_append_right _ List.mem_cons_self
          have := h k ((prefix_map_update rest _).subset hnew)
          rw [hk] at this
          cases this

/-- What all values have, the values that are written among them have too. -/
theorem forall_mem_put {P : Data → Prop} : ∀ {es : Entries} {x v : Data}, (∀ e ∈ es, P e.2) → P v →
    ∀ e ∈ es.put x v, P e.2
  | [], _, _, _, hv => List.forall_mem_singleton.mpr hv
  | (k, w) :: rest, x, v, hes, hv => by
      obtain ⟨hw, hrest⟩ := List.forall_mem_cons.mp hes
      unfold put
      split
      · exact List.forall_mem_cons.mpr ⟨hv, hrest⟩
      · exact List.forall_mem_cons.mpr ⟨hw, forall_mem_put hrest hv⟩

theorem forall_mem_update {P : Data → Prop} : ∀ {fs es : Entries}, (∀ e ∈ es, P e.2) →
    (∀ e ∈ fs, P e.2) → ∀ e ∈ es.update fs, P e.2
  | [], _, hes, _ => hes
  | (k, v) :: rest, es, hes, hfs => by
      obtain ⟨hv, hrest⟩ := List.forall_mem_cons.mp hfs
      show ∀ e ∈ update (es.put k v) rest, P e.2
      exact forall_mem_update (forall_mem_put hes hv) hrest

/-- Later entries stay new behind one that is written. -/
theorem not_has_concat {k v w : Data} {rest es : Entries} (h : areKeyed ((k, v) :: rest) = true)
    (hnew : ∀ e ∈ rest, es.has e.1 = false) : ∀ e ∈ rest, has (es ++ [(k, w)]) e.1 = false := by
  obtain ⟨hk, hfirst, _, hrest⟩ := areKeyed_cons.mp h
  intro e he
  have hother : k.sameKey e.1 = false := by
    rw [sameKey_symm hk (hasKeys_of_areKeyed hrest e he), ← Bool.not_eq_true]
    intro hsame
    have : Entries.has rest k = true := List.any_eq_true.mpr ⟨e, he, hsame⟩
    rw [hfirst] at this
    cases this
  unfold has at hnew ⊢
  rw [List.any_append, hnew e he, List.any_cons, hother]
  rfl

/-- Entries with new keys go to the end. -/
theorem update_of_new : ∀ {fs es : Entries}, areKeyed fs = true → (∀ e ∈ fs, es.has e.1 = false) →
    es.update fs = es ++ fs
  | [], es, _, _ => (List.append_nil es).symm
  | (k, v) :: rest, es, hfs, h => by
      obtain ⟨hfirst, hothers⟩ := List.forall_mem_cons.mp h
      show update (es.put k v) rest = _
      rw [put_of_not_has v hfirst, update_of_new (areKeyed_cons.mp hfs).2.2.2
        (not_has_concat hfs hothers), List.append_assoc]
      rfl

/-- Entries with proper keys are their keys with what the keys have. -/
theorem eq_map_lookup? : ∀ {es : Entries}, areKeyed es = true →
    es = (es.map (·.1)).map fun k => (k, (es.lookup? k).getD .null)
  | [], _ => rfl
  | (k, v) :: rest, h => by
      obtain ⟨hk, hnew, _, hrest⟩ := areKeyed_cons.mp h
      have ih := eq_map_lookup? hrest
      rw [List.map_cons, List.map_cons, lookup?_of_mem h List.mem_cons_self]
      refine congrArg ((k, v) :: ·) (ih.trans ?_)
      rw [List.map_map, List.map_map]
      refine List.map_congr_left fun e he => ?_
      have hhere := lookup?_of_mem h (List.mem_cons_of_mem _ he)
      have hthere := lookup?_of_mem hrest he
      show (e.1, (lookup? rest e.1).getD .null) = (e.1, (lookup? ((k, v) :: rest) e.1).getD .null)
      rw [hhere, hthere]

/-- **Entries with the same keys that have the same values are the same.** -/
theorem ext_lookup? {es fs : Entries} (hes : areKeyed es = true) (hfs : areKeyed fs = true)
    (hkeys : es.map (·.1) = fs.map (·.1)) (h : ∀ k ∈ es.map (·.1), es.lookup? k = fs.lookup? k) :
    es = fs := by
  rw [eq_map_lookup? hes, eq_map_lookup? hfs, ← hkeys]
  refine List.map_congr_left fun k hk => ?_
  rw [h k hk]

end Entries

end DomainGen
