import DomainGen.Proofs.Config.Merging

/-!
# Entries in which each text is a key once

Whatever else the keys of a mapping are, those that are texts are told apart by their text alone. If
each of them occurs once, a text can be looked up through all layers, and so it is in everything that
was written entry by entry.

* `TextsOnce` : each text is a key at most once; `textsOnce_ofList` : **so it is in entries that were
  written one by one**;
* `get?_mergeEntries_texts` : what merged entries have under a text, whatever their other keys are;
  `get?_mergeValue_mapping` : the same for a mapping that is merged into anything;
* `hasTexts` : all keys are texts; `namedTo` : those of nested mappings are, too, down to some depth;
  `namedTo_mergeValue` : **merging keeps that**.
-/

namespace DomainGen

open Data

namespace Entries

/-! ## 1. Texts as keys -/

/-- The texts among the keys. -/
def textKeys (es : Entries) : List String := (es.map (·.1)).filterMap text?

/-- Each text is a key at most once. -/
def TextsOnce (es : Entries) : Prop := es.textKeys.Nodup

theorem textKeys_append (es fs : Entries) : textKeys (es ++ fs) = es.textKeys ++ fs.textKeys := by
  unfold textKeys
  rw [List.map_append, List.filterMap_append]

theorem mem_textKeys {es : Entries} {s : String} : s ∈ es.textKeys ↔ ∃ e ∈ es, e.1 = .text s := by
  have htext : ∀ k : Data, k.text? = some s ↔ k = .text s := by
    intro k
    cases k <;> simp [text?]
  unfold textKeys
  rw [List.mem_filterMap]
  constructor
  · rintro ⟨k, hk, hs⟩
    obtain ⟨e, he, rfl⟩ := List.mem_map.mp hk
    exact ⟨e, he, (htext _).mp hs⟩
  · rintro ⟨e, he, heq⟩
    exact ⟨e.1, List.mem_map_of_mem he, (htext _).mpr heq⟩

/-- A text that is no key has no value. -/
theorem get?_eq_none_of_textKeys {es : Entries} {s : String} (h : s ∉ es.textKeys) :
    es.get? s = none :=
  get?_eq_none_iff.mpr fun e he heq => h (mem_textKeys.mpr ⟨e, he, heq⟩)

theorem textKeys_cons_text (s : String) (v : Data) (rest : Entries) :
    textKeys ((.text s, v) :: rest) = s :: rest.textKeys := rfl

/-- Writing an entry keeps every text at most once. -/
theorem textsOnce_put {es : Entries} (h : es.TextsOnce) (k v : Data) : (es.put k v).TextsOnce := by
  cases hk : es.has k with
  | true =>
      unfold TextsOnce textKeys
      rw [map_put_of_has v hk]
      exact h
  | false =>
      rw [put_of_not_has v hk]
      unfold TextsOnce
      rw [textKeys_append]
      cases k with
      | text s =>
          have hnew : s ∉ es.textKeys := by
            intro hs
            obtain ⟨e, he, heq⟩ := mem_textKeys.mp hs
            have hhas : es.has (.text s) = true :=
              List.any_eq_true.mpr ⟨e, he, by rw [heq]; exact sameKey_text_iff.mpr rfl⟩
            rw [hk] at hhas
            cases hhas
          have hlast : textKeys [(.text s, v)] = [s] := rfl
          rw [hlast, ← List.concat_eq_append]
          exact List.Nodup.concat hnew h
      | _ => exact (List.append_nil es.textKeys).symm ▸ h

theorem textsOnce_update : ∀ {fs es : Entries}, es.TextsOnce → (es.update fs).TextsOnce
  | [], _, h => h
  | (k, v) :: rest, es, h => by
      show (Entries.update (es.put k v) rest).TextsOnce
      exact textsOnce_update (textsOnce_put h k v)

/-- **Entries that were written one by one have each text at most once.** -/
theorem textsOnce_ofList (es : Entries) : (ofList es).TextsOnce :=
  textsOnce_update List.nodup_nil

theorem textsOnce_ofFields {fields : List (String × Data)} (h : (fields.map (·.1)).Nodup) :
    (ofFields fields).TextsOnce := by
  have hkeys : (ofFields fields).textKeys = fields.map (·.1) := by
    unfold textKeys
    rw [map_ofFields, List.filterMap_map]
    exact List.filterMap_some
  unfold TextsOnce
  rw [hkeys]
  exact h

/-- **What merged entries have under a text**, whatever their other keys are. -/
theorem get?_mergeEntries_texts {s : String} : ∀ {es target : Entries}, es.TextsOnce →
    (mergeEntries target es).get? s = overlay (target.get? s) (es.get? s)
  | [], _, _ => rfl
  | (k, v) :: rest, target, h => by
      rw [mergeEntries]
      by_cases hk : k = .text s
      · subst hk
        unfold TextsOnce at h
        rw [textKeys_cons_text, List.nodup_cons] at h
        have hhead : get? ((.text s, v) :: rest) s = some v := by
          unfold get?
          rw [lookup?_cons, if_pos (sameKey_text_iff.mpr rfl)]
        rw [get?_mergeEntries_texts h.2, get?_eq_none_of_textKeys h.1, get?_put_self, hhead]
        rfl
      · have hrest : TextsOnce rest := by
          have hsub : (textKeys rest).Sublist (textKeys ((k, v) :: rest)) :=
            ((List.sublist_cons_self (k, v) rest).map Prod.fst).filterMap text?
          exact h.sublist hsub
        have htail : get? ((k, v) :: rest) s = get? rest s := by
          unfold get?
          rw [lookup?_cons, if_neg fun hsame => hk (sameKey_text_iff.mp hsame)]
        rw [get?_mergeEntries_texts hrest, get?_put_other _ _ hk, htail]

/-- A mapping is merged to a mapping, and there each of its texts has its value, merged with something. -/
theorem get?_mergeValue_mapping {es : Entries} (hes : es.TextsOnce) (old : Option Data) :
    ∃ merged : Entries, mergeValue old (.mapping es) = .mapping merged ∧ ∀ s v, es.get? s = some v →
      ∃ below, merged.get? s = some (mergeValue below v) := by
  by_cases hmapping : ∃ target, old = some (.mapping target)
  · obtain ⟨target, rfl⟩ := hmapping
    refine ⟨mergeEntries target es, rfl, fun s v hv => ⟨Entries.get? target s, ?_⟩⟩
    rw [get?_mergeEntries_texts hes, hv]
    rfl
  · refine ⟨es, mergeValue_of_not_mapping (fun target h => hmapping ⟨target, h⟩) _,
      fun s v hv => ⟨none, ?_⟩⟩
    rw [mergeValue_none, hv]

/-! ## 2. Nothing but texts as keys -/

/-- Are all keys texts? -/
def hasTexts (es : Entries) : Bool := es.all fun e => e.1.text?.isSome

theorem hasTexts_iff {es : Entries} : es.hasTexts = true ↔ ∀ e ∈ es, e.1.text?.isSome = true :=
  List.all_eq_true

/-- An entry after one was written: an old one, or the new value under the new key or under an old
    key. -/
theorem mem_put {es : Entries} {x v : Data} {e : Data × Data} (h : e ∈ es.put x v) :
    e ∈ es ∨ e.2 = v ∧ (e.1 = x ∨ ∃ w, (e.1, w) ∈ es) := by
  induction es with
  | nil =>
      rw [List.mem_singleton.mp h]
      exact .inr ⟨rfl, .inl rfl⟩
  | cons first rest ih =>
      obtain ⟨k, w⟩ := first
      unfold put at h
      split at h
      · rcases List.mem_cons.mp h with rfl | h
        · exact .inr ⟨rfl, .inr ⟨w, List.mem_cons_self⟩⟩
        · exact .inl (List.mem_cons_of_mem _ h)
      · rcases List.mem_cons.mp h with rfl | h
        · exact .inl List.mem_cons_self
        · obtain h | ⟨hv, h⟩ := ih h
          · exact .inl (List.mem_cons_of_mem _ h)
          · refine .inr ⟨hv, h.imp_right ?_⟩
            rintro ⟨u, hu⟩
            exact ⟨u, List.mem_cons_of_mem _ hu⟩

theorem exists_of_lookup? {es : Entries} {x v : Data} (h : es.lookup? x = some v) :
    ∃ e ∈ es, e.2 = v := by
  obtain ⟨e, he, rfl⟩ := Option.map_eq_some_iff.mp h
  exact ⟨e, List.mem_of_find?_eq_some he, rfl⟩

theorem hasTexts_append (es fs : Entries) :
    hasTexts (es ++ fs) = (es.hasTexts && fs.hasTexts) := List.all_append

/-- After an entry was written all keys are texts exactly if they were before and the new one is. -/
theorem hasTexts_put (es : Entries) (k v : Data) :
    (es.put k v).hasTexts = (es.hasTexts && k.text?.isSome) := by
  cases hk : es.has k with
  | false =>
      have hlast : hasTexts [(k, v)] = k.text?.isSome := Bool.and_true _
      rw [put_of_not_has v hk, hasTexts_append, hlast]
  | true =>
      have hkeys : (es.put k v).hasTexts = es.hasTexts := by
        have hmap : ∀ fs : Entries, fs.hasTexts = (fs.map (·.1)).all (·.text?.isSome) := fun fs => by
          rw [List.all_map]
          rfl
        rw [hmap, hmap, map_put_of_has v hk]
      rw [hkeys]
      obtain ⟨e, he, hsame⟩ := List.any_eq_true.mp hk
      cases htext : k.text?.isSome with
      | true => rw [Bool.and_true]
      | false =>
          -- a key that is the same as one that is no text is no text itself
          have hother : e.1.text?.isSome = false := by
            cases hkey : e.1 with
            | text s =>
                rw [hkey] at hsame
                rw [text_sameKey_iff.mp hsame] at htext
                cases htext
            | _ => rfl
          rw [Bool.and_false]
          exact List.all_eq_false.mpr ⟨e, he, by rw [hother]; exact Bool.false_ne_true⟩

/-- **The keys of two layers are texts exactly if those of each layer are.** -/
theorem hasTexts_update : ∀ (fs es : Entries),
    (es.update fs).hasTexts = (es.hasTexts && fs.hasTexts)
  | [], es => (Bool.and_true _).symm
  | (k, v) :: rest, es => by
      show (Entries.update (es.put k v) rest).hasTexts = _
      rw [hasTexts_update rest, hasTexts_put, Bool.and_assoc]
      rfl

end Entries

/-! ## 3. Nested mappings -/

namespace Data

/-- Are the keys of a mapping texts, and those of the mappings in it down to a depth? -/
def namedTo : (depth : Nat) → Data → Bool
  | 0, _ => true
  | depth + 1, .mapping es => es.all fun e => e.1.text?.isSome && namedTo depth e.2
  | _ + 1, _ => true

theorem namedTo_mapping {depth : Nat} {es : Entries} :
    namedTo (depth + 1) (.mapping es) = true ↔
      ∀ e ∈ es, e.1.text?.isSome = true ∧ e.2.namedTo depth = true := by
  rw [namedTo, List.all_eq_true]
  exact forall₂_congr fun e _ => Bool.and_eq_true_iff

/-- **Merging keeps keys texts**, at every depth. -/
theorem namedTo_mergeValue : ∀ {depth : Nat} {v : Data} {old : Option Data},
    v.namedTo depth = true → (∀ x ∈ old, x.namedTo depth = true) →
    (mergeValue old v).namedTo depth = true
  | 0, _, _, _, _ => rfl
  | depth + 1, v, old, hv, hold => by
      by_cases hboth : ∃ target es, old = some (.mapping target) ∧ v = .mapping es
      · obtain ⟨target, es, rfl, rfl⟩ := hboth
        have htarget := namedTo_mapping.mp (hold _ rfl)
        have hes := namedTo_mapping.mp hv
        clear hv hold
        show namedTo (depth + 1) (.mapping (mergeEntries target es)) = true
        refine namedTo_mapping.mpr ?_
        induction es generalizing target with
        | nil => exact htarget
        | cons e rest ih =>
            obtain ⟨k, w⟩ := e
            obtain ⟨⟨hk, hw⟩, hrest⟩ := List.forall_mem_cons.mp hes
            rw [mergeEntries]
            refine ih _ (fun f hf => ?_) hrest
            rcases Entries.mem_put hf with hmem | ⟨hvalue, hkey⟩
            · exact htarget f hmem
            · constructor
              · rcases hkey with rfl | ⟨u, hu⟩
                · exact hk
                · exact (htarget _ hu).1
              · rw [hvalue]
                refine namedTo_mergeValue hw fun x hx => ?_
                obtain ⟨f, hf, rfl⟩ := Entries.exists_of_lookup? hx
                exact (htarget f hf).2
      · have hsame : mergeValue old v = v := by
          cases v with
          | mapping es =>
              exact mergeValue_of_not_mapping (fun target ht => hboth ⟨target, es, ht, rfl⟩) _
          | _ => rfl
        rw [hsame]
        exact hv

end Data

end DomainGen
