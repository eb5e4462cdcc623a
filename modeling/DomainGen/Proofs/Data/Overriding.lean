import DomainGen.Data.Entries
import Mathlib.Data.List.Induction
import Mathlib.Data.List.Nodup
import Mathlib.Data.List.Perm.Subperm

/-!
# Entries written over others

A mapping that is made of several layers holds, for each key, the value of the last layer that has
the key. Keys that are texts are told apart by their text alone, so the layers can be read off one
key at a time.

Entries can also be moved behind all others. No entry gets lost then and none is added.

* `get?_update` : **the upper layer wins**, and below it the lower one shows;
* `get?_update_of_mem`, `get?_update_of_not_mem` : layers with different keys;
* `Entries.besides`, `besides_update` : the entries of all other keys are those of the layers without
  the keys;
* `Entries.movedBack`, `Entries.changedAt` : the same change of some entries, with them moved and with
  them where they are;
* `perm_movedBack` : **both have the same entries**.
-/

namespace DomainGen

/-! ## 1. Keys that are texts -/

namespace Data

/-- Is the key one of some texts? -/
def isAmong (keys : List String) : Data → Bool
  | .text s => keys.contains s
  | _ => false

theorem isAmong_iff {s : String} {keys : List String} :
    (Data.text s).isAmong keys = true ↔ s ∈ keys := List.contains_iff_mem

/-- Equal keys are among the same texts. -/
theorem isAmong_congr {x y : Data} (h : x.sameKey y = true) (keys : List String) :
    x.isAmong keys = y.isAmong keys := by
  cases x with
  | text s => rw [text_sameKey_iff.mp h]
  | _ =>
      cases y with
      | text t => cases sameKey_text_iff.mp h
      | _ => rfl

end Data

namespace Entries

/-! ## 2. One entry -/

/-- What was written is found. -/
@[simp] theorem get?_put_self (es : Entries) (s : String) (v : Data) :
    (es.put (.text s) v).get? s = some v :=
  lookup?_put_self es (.text s) v (Data.sameKey_text_iff.mpr rfl)

/-- All other texts are found as before. -/
theorem get?_put_other : ∀ (es : Entries) {x : Data} {s : String} (v : Data), x ≠ .text s →
    (es.put x v).get? s = es.get? s
  | [], x, s, v, h => by
      have hx : x.sameKey (.text s) = false := by
        rw [← Bool.not_eq_true, Data.sameKey_text_iff]
        exact h
      simp [put, get?, lookup?, hx]
  | (k, w) :: rest, x, s, v, h => by
      have ih := get?_put_other rest v h
      unfold get? lookup? at ih ⊢
      unfold put
      by_cases hk : k.sameKey x = true
      · -- the entry keeps its key, which is not the text either
        have hks : k.sameKey (.text s) = false := by
          rw [← Bool.not_eq_true, Data.sameKey_text_iff]
          rintro rfl
          exact h (Data.text_sameKey_iff.mp hk)
        simp [hk, hks]
      · simp only [hk, Bool.false_eq_true, if_false, List.find?_cons]
        cases k.sameKey (.text s) with
        | true => rfl
        | false => exact ih

@[simp] theorem get?_set_self (es : Entries) (s : String) (v : Data) :
    (es.set s v).get? s = some v := get?_put_self es s v

theorem get?_set_other (es : Entries) {s t : String} (v : Data) (h : t ≠ s) :
    (es.set t v).get? s = es.get? s :=
  get?_put_other es v fun heq => h (Data.text.inj heq)

/-- What stands once is found. -/
theorem get?_of_mem : ∀ {es : Entries} {s : String} {v : Data}, (es.map (·.1)).Nodup →
    (.text s, v) ∈ es → es.get? s = some v
  | (k, w) :: rest, s, v, hn, h => by
      have hhead : get? ((k, w) :: rest) s =
          if k.sameKey (.text s) then some w else get? rest s := by
        unfold get? lookup?
        rw [List.find?_cons]
        cases k.sameKey (.text s) <;> rfl
      rw [hhead]
      rcases List.mem_cons.mp h with heq | h
      · cases heq
        rw [if_pos (Data.sameKey_text_iff.mpr rfl)]
      · have hk : ¬ k.sameKey (.text s) = true := by
          intro hk
          rw [Data.sameKey_text_iff.mp hk] at hn
          exact (List.nodup_cons.mp hn).1 (List.mem_map_of_mem (f := (·.1)) h)
        rw [if_neg hk]
        exact get?_of_mem (List.nodup_cons.mp hn).2 h

/-- A text is found exactly if there is an entry with it. -/
theorem get?_eq_none_iff {es : Entries} {s : String} :
    es.get? s = none ↔ ∀ e ∈ es, e.1 ≠ .text s := by
  unfold get? lookup?
  rw [Option.map_eq_none_iff, List.find?_eq_none]
  exact forall₂_congr fun e _ => not_congr Data.sameKey_text_iff

theorem map_ofFields (xs : List (String × Data)) :
    (ofFields xs).map (·.1) = (xs.map (·.1)).map Data.text := by
  unfold ofFields
  rw [List.map_map, List.map_map]
  rfl

theorem mem_ofFields {xs : List (String × Data)} {x : String × Data} (h : x ∈ xs) :
    (Data.text x.1, x.2) ∈ ofFields xs :=
  List.mem_map_of_mem (f := fun f => (Data.text f.1, f.2)) h

/-- A field is found, if the names are different. -/
theorem get?_ofFields {fields : List (String × Data)} (h : (fields.map (·.1)).Nodup)
    {field : String × Data} (hfield : field ∈ fields) :
    (ofFields fields).get? field.1 = some field.2 := by
  refine get?_of_mem ?_ (mem_ofFields hfield)
  rw [map_ofFields]
  exact h.map fun _ _ => Data.text.inj

/-! ## 3. Layers -/

theorem update_concat (es fs : Entries) (x : Data × Data) :
    es.update (fs ++ [x]) = (es.update fs).put x.1 x.2 := by
  unfold update
  rw [List.foldl_append]
  rfl

theorem update_append (es fs gs : Entries) : es.update (fs ++ gs) = (es.update fs).update gs :=
  List.foldl_append

/-- **The upper layer wins**, and where it has no value the lower one shows. -/
theorem get?_update (es fs : Entries) (s : String) :
    (es.update fs).get? s = ((ofList fs).get? s).or (es.get? s) := by
  induction fs using List.reverseRecOn with
  | nil => rfl
  | append_singleton fs x ih =>
      unfold ofList at ih ⊢
      rw [update_concat, update_concat]
      by_cases hx : x.1 = .text s
      · rw [hx, get?_put_self, get?_put_self]
        rfl
      · rw [get?_put_other _ _ hx, get?_put_other _ _ hx]
        exact ih

/-- A layer without a key does not hide it. -/
theorem get?_update_of_not_mem {es fs : Entries} {s : String} (h : .text s ∉ fs.map (·.1)) :
    (es.update fs).get? s = es.get? s := by
  induction fs using List.reverseRecOn with
  | nil => rfl
  | append_singleton fs x ih =>
      rw [List.map_append, List.mem_append, not_or] at h
      have hx : x.1 ≠ .text s := fun heq => h.2 (heq ▸ List.mem_cons_self)
      rw [update_concat, get?_put_other _ _ hx]
      exact ih h.1

/-- What stands once in a layer is found. -/
theorem get?_update_of_mem {es fs : Entries} {s : String} {v : Data}
    (hn : (fs.map (·.1)).Nodup) (h : (.text s, v) ∈ fs) : (es.update fs).get? s = some v := by
  obtain ⟨front, back, rfl⟩ := List.append_of_mem h
  have hback : .text s ∉ back.map (·.1) := by
    rw [List.map_append, List.map_cons] at hn
    exact (List.nodup_cons.mp (List.nodup_append.mp hn).2.1).1
  have hcons : es.update (front ++ (.text s, v) :: back) =
      ((es.update front).put (.text s) v).update back := update_append es front _
  rw [hcons, get?_update_of_not_mem hback, get?_put_self]

/-! ## 4. All other keys -/

/-- The entries less those of some texts. -/
def besides (es : Entries) (keys : List String) : Entries :=
  es.filter fun e => !e.1.isAmong keys

variable {keys : List String}

/-- All other keys are found as before. -/
theorem lookup?_besides {x : Data} (hx : x.isAmong keys = false) (es : Entries) :
    (es.besides keys).lookup? x = es.lookup? x := by
  unfold lookup? besides
  rw [List.find?_filter]
  congr 2
  funext e
  cases hkey : e.1.sameKey x with
  | false => simp
  | true => simp [(Data.isAmong_congr hkey keys).trans hx]

theorem get?_besides {s : String} (hs : s ∉ keys) (es : Entries) :
    (es.besides keys).get? s = es.get? s :=
  lookup?_besides (Bool.not_eq_true _ ▸ fun h => hs (Data.isAmong_iff.mp h)) es

/-- Writing one of the texts changes nothing of the others. -/
theorem besides_put_among : ∀ (es : Entries) {x : Data} (v : Data), x.isAmong keys = true →
    (es.put x v).besides keys = es.besides keys
  | [], x, v, h => by simp [put, besides, h]
  | (k, w) :: rest, x, v, h => by
      have ih := besides_put_among rest v h
      unfold besides at ih ⊢
      unfold put
      by_cases hk : k.sameKey x = true
      · simp [hk, Data.isAmong_congr hk keys, h]
      · simp only [hk, Bool.false_eq_true, if_false, List.filter_cons, ih]

/-- Writing another key changes nothing but its entry. -/
theorem besides_put : ∀ (es : Entries) {x : Data} (v : Data), x.isAmong keys = false →
    (es.put x v).besides keys = (es.besides keys).put x v
  | [], x, v, h => by simp [put, besides, h]
  | (k, w) :: rest, x, v, h => by
      have ih := besides_put rest v h
      unfold besides at ih ⊢
      by_cases hk : k.sameKey x = true
      · have hkeys : k.isAmong keys = false := (Data.isAmong_congr hk keys).trans h
        simp [put, hk, hkeys]
      · cases hkeys : k.isAmong keys with
        | true => simp [put, hk, hkeys, ih]
        | false => simp [put, hk, hkeys, ih]

/-- **The other entries of two layers are the two layers of other entries.** -/
theorem besides_update (es fs : Entries) :
    (es.update fs).besides keys = (es.besides keys).update (fs.besides keys) := by
  induction fs using List.reverseRecOn with
  | nil => rfl
  | append_singleton fs x ih =>
      have hlast : Entries.besides (fs ++ [x]) keys =
          Entries.besides fs keys ++ Entries.besides [x] keys := List.filter_append fs [x]
      rw [update_concat, hlast]
      cases hx : x.1.isAmong keys with
      | true =>
          have hgone : Entries.besides [x] keys = [] := by simp [besides, hx]
          rw [besides_put_among _ _ hx, hgone, List.append_nil]
          exact ih
      | false =>
          have hstays : Entries.besides [x] keys = [x] := by simp [besides, hx]
          rw [besides_put _ _ hx, hstays, update_concat, ih]

/-- Writing one of the texts changes nothing of the others. -/
theorem besides_set (es : Entries) {s : String} (v : Data) (h : s ∈ keys) :
    (es.set s v).besides keys = es.besides keys :=
  besides_put_among es v (Data.isAmong_iff.mpr h)

/-- Nothing is left of entries that have none but these keys. -/
theorem besides_eq_nil {es : Entries} (h : ∀ e ∈ es, e.1.isAmong keys = true) :
    es.besides keys = [] := by
  refine List.filter_eq_nil_iff.mpr fun e he => ?_
  rw [h e he]
  exact Bool.false_ne_true

theorem isAmong_of_besides_eq_nil {es : Entries} (h : es.besides keys = []) :
    ∀ e ∈ es, e.1.isAmong keys = true := by
  intro e he
  simpa using List.filter_eq_nil_iff.mp h e he

end Entries

end DomainGen

/-! ## 5. Entries in another order -/

namespace DomainGen.Entries

variable {es : Entries} {keys : List String} {f : Data → Data} {s : String} {x : Data}

/-- An entry with its value changed if its key is one of some texts. -/
def changeAt (keys : List String) (f : Data → Data) (e : Data × Data) : Data × Data :=
  if e.1.isAmong keys then (e.1, f e.2) else e

/-- The entries of some texts with their values changed, where they stand. -/
def changedAt (keys : List String) (f : Data → Data) (es : Entries) : Entries :=
  es.map (changeAt keys f)

/-- The entries of some texts with their values changed, behind all others and in the order of the
    texts. -/
def movedBack (keys : List String) (f : Data → Data) (es : Entries) : Entries :=
  es.besides keys ++ keys.filterMap fun s => (es.get? s).map fun x => (.text s, f x)

/-- What is found is among the entries. -/
theorem mem_of_get? (h : es.get? s = some x) : (.text s, x) ∈ es := by
  obtain ⟨e, he, rfl⟩ := Option.map_eq_some_iff.mp h
  have hkey := List.find?_some he
  rw [← Data.sameKey_text_iff.mp hkey]
  exact List.mem_of_find?_eq_some he

theorem exists_of_isAmong {x : Data} (h : x.isAmong keys = true) : ∃ s ∈ keys, x = .text s := by
  cases x with
  | text s => exact ⟨s, Data.isAmong_iff.mp h, rfl⟩
  | _ => cases h

/-- The keys of the entries that are found for some texts. -/
theorem map_found (es : Entries) (f : Data → Data) (keys : List String) :
    (keys.filterMap fun s => (es.get? s).map fun x => (Data.text s, f x)).map (·.1) =
      (keys.filter fun s => (es.get? s).isSome).map Data.text := by
  induction keys with
  | nil => rfl
  | cons s rest ih =>
      rw [List.filterMap_cons, List.filter_cons]
      cases es.get? s with
      | none => exact ih
      | some x => exact congrArg (Data.text s :: ·) ih

/-- The entries of some texts, by the texts and by the entries. -/
theorem perm_among (hes : (es.map (·.1)).Nodup) (hkeys : keys.Nodup) :
    (keys.filterMap fun s => (es.get? s).map fun x => (Data.text s, f x)).Perm
      ((es.filter fun e => e.1.isAmong keys).map fun e => (e.1, f e.2)) := by
  have hleft : ((keys.filterMap fun s => (es.get? s).map fun x => (Data.text s, f x)).map
      (·.1)).Nodup := by
    rw [map_found]
    exact (hkeys.filter _).map fun s t h => Data.text.inj h
  have hright : (((es.filter fun e => e.1.isAmong keys).map fun e => (e.1, f e.2)).map
      (·.1)).Nodup := by
    rw [List.map_map]
    exact hes.sublist (List.filter_sublist.map _)
  refine (List.perm_ext_iff_of_nodup hleft.of_map hright.of_map).mpr fun e => ?_
  rw [List.mem_filterMap, List.mem_map]
  constructor
  · rintro ⟨s, hs, he⟩
    obtain ⟨x, hx, rfl⟩ := Option.map_eq_some_iff.mp he
    exact ⟨(.text s, x), List.mem_filter.mpr ⟨mem_of_get? hx, Data.isAmong_iff.mpr hs⟩, rfl⟩
  · rintro ⟨⟨k, x⟩, he, rfl⟩
    obtain ⟨hmem, hamong⟩ := List.mem_filter.mp he
    obtain ⟨s, hs, rfl⟩ := exists_of_isAmong hamong
    exact ⟨s, hs, by rw [get?_of_mem hes hmem]; rfl⟩

/-- **Moving entries loses none and adds none.** -/
theorem perm_movedBack (hes : (es.map (·.1)).Nodup) (hkeys : keys.Nodup) :
    (es.movedBack keys f).Perm (es.changedAt keys f) := by
  have hmoved : (es.filter fun e => e.1.isAmong keys).map (changeAt keys f) =
      (es.filter fun e => e.1.isAmong keys).map fun e => (e.1, f e.2) :=
    List.map_congr_left fun e he => if_pos (List.mem_filter.mp he).2
  have hkept : (es.besides keys).map (changeAt keys f) = es.besides keys := by
    refine (List.map_congr_left fun e he => if_neg ?_).trans (List.map_id _)
    rw [Bool.not_eq_true, ← Bool.not_eq_true']
    exact (List.mem_filter.mp he).2
  have hall := (List.filter_append_perm (fun e => e.1.isAmong keys) es).map (changeAt keys f)
  rw [List.map_append, hmoved] at hall
  refine ((perm_among hes hkeys).append_left _).trans (List.perm_append_comm.trans ?_)
  rw [← hkept]
  exact hall

end DomainGen.Entries
