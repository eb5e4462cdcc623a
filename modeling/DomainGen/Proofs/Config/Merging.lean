import DomainGen.Config.Merge
import DomainGen.Proofs.Data.Keyed
import DomainGen.Proofs.Data.Overriding

/-!
# What merging gives at a path

Merged entries are read along paths of keys. At each path they hold what the overriding entries have
there, and where those say nothing what was there before; only two mappings are merged further.

* `Data.at?` : the value at a path; `Data.lacks` : some mapping on the way says nothing;
* `lookup?_mergeEntries`, `at?_mergeValue` : what merging gives under one key and at a path;
* `MergedAt`, `mergedAt` : **what merged entries hold at every path**;
* `areKeyed_mergeEntries` : merging keeps keys apart;
* `mergeEntries_again` : **merging the same entries once more changes nothing**;
* `mergeEntries_of_new`, `besides_mergeEntries` : entries with new keys go to the end, and the entries of
  some keys are merged apart from the others.
-/

namespace DomainGen

/-! ## 1. Paths -/

namespace Data

/-- The value at a path of keys. -/
def at? : Data → List Data → Option Data
  | x, [] => some x
  | .mapping es, key :: path => (Entries.lookup? es key).bind fun v => v.at? path
  | _, _ :: _ => none

/-- Does some mapping on the way along a path have no entry for the next key? -/
def lacks : Data → List Data → Bool
  | .mapping es, key :: path => match Entries.lookup? es key with
    | some v => v.lacks path
    | none => true
  | _, _ => false

end Data

/-! ## 2. Merging -/

open Data Entries

theorem hasKeys_mergeEntries : ∀ {es target : Entries}, areKeyed es = true → HasKeys target →
    HasKeys (mergeEntries target es)
  | [], _, _, ht => ht
  | (k, v) :: rest, target, h, ht => by
      obtain ⟨hk, _, _, hrest⟩ := areKeyed_cons.mp h
      rw [mergeEntries]
      exact hasKeys_mergeEntries hrest (hasKeys_put _ ht hk)

/-- A value is overridden as what stood there says. -/
def overlay (old new : Option Data) : Option Data :=
  match new with
  | none => old
  | some v => some (mergeValue old v)

/-- **What merged entries have under a key.** -/
theorem lookup?_mergeEntries : ∀ {es target : Entries} {x : Data}, areKeyed es = true →
    HasKeys target → x.isKey = true →
    (mergeEntries target es).lookup? x = overlay (target.lookup? x) (Entries.lookup? es x)
  | [], _, _, _, _, _ => rfl
  | (k, v) :: rest, target, x, h, ht, hx => by
      obtain ⟨hk, hnew, _, hrest⟩ := areKeyed_cons.mp h
      rw [mergeEntries, lookup?_mergeEntries hrest (hasKeys_put _ ht hk) hx, lookup?_put _ ht hk hx,
        lookup?_cons]
      by_cases hkx : k.sameKey x = true
      · -- no later entry has the key
        have hlater : lookup? rest x = none := by
          rw [← lookup?_congr (hasKeys_of_areKeyed hrest) hk hx hkx]
          exact lookup?_eq_none_of_has hnew
        rw [if_pos hkx, if_pos hkx, hlater, lookup?_congr ht hk hx hkx]
        rfl
      · rw [if_neg hkx, if_neg hkx]

/-- Over a value that is no mapping nothing is merged. -/
theorem mergeValue_of_not_mapping {old : Option Data} (h : ∀ es, old ≠ some (.mapping es))
    (v : Data) : mergeValue old v = v := by
  unfold mergeValue
  split
  · split
    · rename_i target
      exact absurd rfl (h target)
    · rfl
  · rfl

theorem mergeValue_none (v : Data) : mergeValue none v = v :=
  mergeValue_of_not_mapping (fun _ h => by cases h) v

theorem at?_cons_of_not_mapping {v : Data} (h : ∀ es, v ≠ .mapping es) (key : Data)
    (path : List Data) : v.at? (key :: path) = none := by
  unfold at?
  split
  · rename_i heq
    cases heq
  · rename_i es _ _ heq
    exact absurd rfl (h es)
  · rfl

/-- What merging gives at a path, from what the overriding value has there and whether it says
    anything. -/
def overlayAt (old new : Option Data) (silent : Bool) : Option Data :=
  match new with
  | some v => some (mergeValue old v)
  | none => if silent then old else none

/-- **What a merged value has at a path.** -/
theorem at?_mergeValue : ∀ {path : List Data} {old : Option Data} {v : Data},
    (∀ key ∈ path, key.isKey = true) → (∀ x ∈ old, x.isKeyed = true) → v.isKeyed = true →
    (mergeValue old v).at? path = overlayAt (old.bind (·.at? path)) (v.at? path) (v.lacks path)
  | [], old, v, _, _, _ => by
      cases old <;> rfl
  | key :: path, old, v, hpath, hold, hv => by
      have hkey : key.isKey = true := hpath key List.mem_cons_self
      have hrest : ∀ k ∈ path, k.isKey = true := fun k hk => hpath k (List.mem_cons_of_mem _ hk)
      cases v with
      | mapping es =>
          by_cases htarget : ∃ target, old = some (.mapping target)
          · obtain ⟨target, rfl⟩ := htarget
            have ht : areKeyed target = true := hold _ rfl
            have hmerged : mergeValue (some (.mapping target)) (.mapping es) =
                .mapping (mergeEntries target es) := rfl
            simp only [hmerged, at?, lacks, Option.bind_some,
              lookup?_mergeEntries hv (hasKeys_of_areKeyed ht) hkey]
            cases hes : Entries.lookup? es key with
            | none => rfl
            | some w =>
                exact at?_mergeValue hrest (fun x hx => isKeyed_of_lookup? ht hx)
                  (isKeyed_of_lookup? hv hes)
          · have hnot : ∀ target, old ≠ some (.mapping target) := fun t ht => htarget ⟨t, ht⟩
            have hnone : old.bind (·.at? (key :: path)) = none := by
              cases old with
              | none => rfl
              | some x => exact at?_cons_of_not_mapping (fun es he => hnot es (he ▸ rfl)) key path
            rw [mergeValue_of_not_mapping hnot, hnone]
            cases at? (.mapping es) (key :: path) with
            | none => exact (ite_self none).symm
            | some w => exact congrArg some (mergeValue_none w).symm
      | _ => rfl

theorem at?_eq_none_of_lacks : ∀ {path : List Data} {v : Data}, v.lacks path = true →
    v.at? path = none
  | [], v, h => by
      cases v <;> cases h
  | key :: path, v, h => by
      cases v with
      | mapping es =>
          simp only [lacks] at h
          simp only [at?]
          cases hes : Entries.lookup? es key with
          | none => rfl
          | some w =>
              rw [hes] at h
              exact at?_eq_none_of_lacks h
      | _ => rfl

theorem at?_concat : ∀ (path : List Data) (key : Data) (v : Data),
    v.at? (path ++ [key]) = (v.at? path).bind (·.at? [key])
  | [], key, v => by
      rw [List.nil_append, show v.at? [] = some v by cases v <;> rfl]
      rfl
  | k :: path, key, v => by
      cases v with
      | mapping es =>
          simp only [List.cons_append, at?]
          cases Entries.lookup? es k with
          | none => rfl
          | some w => exact at?_concat path key w
      | _ => rfl

/-- Whoever says nothing at a path says nothing beyond it. -/
theorem lacks_append : ∀ {path : List Data} (rest : List Data) {v : Data}, v.lacks path = true →
    v.lacks (path ++ rest) = true
  | [], _, v, h => by
      cases v <;> cases h
  | k :: path, rest, v, h => by
      cases v with
      | mapping es =>
          simp only [List.cons_append, lacks] at h ⊢
          cases hes : Entries.lookup? es k with
          | none => rfl
          | some w =>
              rw [hes] at h
              exact lacks_append rest h
      | _ => cases h

theorem lacks_concat : ∀ {path : List Data} {key : Data} {v : Data} {es : Entries},
    v.at? path = some (.mapping es) → es.lookup? key = none → v.lacks (path ++ [key]) = true
  | [], key, v, es, h, hkey => by
      rw [show v.at? [] = some v by cases v <;> rfl] at h
      cases h
      simp only [List.nil_append, lacks, hkey]
  | k :: path, key, v, es, h, hkey => by
      cases v with
      | mapping fs =>
          simp only [at?] at h
          simp only [List.cons_append, lacks]
          cases hfs : Entries.lookup? fs k with
          | none => rfl
          | some w =>
              rw [hfs] at h
              exact lacks_concat h hkey
      | _ => cases h

/-- Over a mapping, a mapping or nothing gives a mapping. -/
theorem exists_mapping_overlayAt {below : Entries} {new : Option Data} {silent : Bool}
    (h : (∃ es, new = some (.mapping es)) ∨ (new = none ∧ silent = true)) :
    ∃ es, overlayAt (some (.mapping below)) new silent = some (.mapping es) := by
  rcases h with ⟨es, rfl⟩ | ⟨rfl, rfl⟩
  · exact ⟨mergeEntries below es, rfl⟩
  · exact ⟨below, rfl⟩

/-- Where nothing is merged, the upper value comes first. -/
theorem overlayAt_eq_or {old new : Option Data} {silent : Bool} (hsilent : new = none → silent = true)
    (hnot : ∀ es, overlayAt old new silent ≠ some (.mapping es)) :
    overlayAt old new silent = new.or old := by
  cases new with
  | none =>
      rw [hsilent rfl]
      cases old <;> rfl
  | some v =>
      cases v with
      | mapping es =>
          unfold overlayAt mergeValue at hnot
          dsimp only at hnot
          split at hnot
          · exact absurd rfl (hnot _)
          · exact absurd rfl (hnot _)
      | _ => rfl

/-- Where nothing is merged, the uppermost of three values comes first. -/
theorem overlayAt_overlayAt {old middle new : Option Data} {silent silent' : Bool}
    (hmiddle : middle = none → silent = true) (hnew : new = none → silent' = true)
    (hnot : ∀ es, overlayAt (overlayAt old middle silent) new silent' ≠ some (.mapping es)) :
    overlayAt (overlayAt old middle silent) new silent' = (new.or middle).or old := by
  rw [overlayAt_eq_or hnew hnot]
  cases new with
  | some v => rfl
  | none =>
      rw [hnew rfl] at hnot
      exact overlayAt_eq_or hmiddle hnot

/-- What entries merged of two hold at a path: **the value of the upper ones if it is no mapping, that
    of the lower ones where the upper ones say nothing, a mapping of the upper ones where the lower
    ones have none, and else both mappings merged**. -/
structure MergedAt (lower upper : Entries) (path : List Data) : Prop where
  overridden : ∀ v, (Data.mapping upper).at? path = some v → (∀ es, v ≠ .mapping es) →
    (Data.mapping (mergeEntries lower upper)).at? path = some v
  kept : (Data.mapping upper).lacks path = true →
    (Data.mapping (mergeEntries lower upper)).at? path = (Data.mapping lower).at? path
  replaced : ∀ es, (Data.mapping upper).at? path = some (.mapping es) →
    (∀ below, (Data.mapping lower).at? path ≠ some (.mapping below)) →
    (Data.mapping (mergeEntries lower upper)).at? path = some (.mapping es)
  merged : ∀ es below, (Data.mapping upper).at? path = some (.mapping es) →
    (Data.mapping lower).at? path = some (.mapping below) →
    (Data.mapping (mergeEntries lower upper)).at? path = some (.mapping (mergeEntries below es))

theorem at?_mergeEntries {lower upper : Entries} (hlower : areKeyed lower = true)
    (hupper : areKeyed upper = true) {path : List Data} (hpath : ∀ key ∈ path, key.isKey = true) :
    (Data.mapping (mergeEntries lower upper)).at? path =
      overlayAt ((Data.mapping lower).at? path) ((Data.mapping upper).at? path)
        ((Data.mapping upper).lacks path) :=
  @at?_mergeValue path (some (.mapping lower)) (.mapping upper) hpath
    (fun x hx => by cases hx; exact hlower) hupper

/-- **Merged entries hold at every path what they should.** -/
theorem mergedAt {lower upper : Entries} (hlower : areKeyed lower = true)
    (hupper : areKeyed upper = true) {path : List Data} (hpath : ∀ key ∈ path, key.isKey = true) :
    MergedAt lower upper path := by
  have h := at?_mergeEntries hlower hupper hpath
  refine ⟨fun v hv hnot => ?_, fun hlacks => ?_, fun es hes hnot => ?_, fun es below hes hbelow => ?_⟩
  · rw [h, hv]
    unfold overlayAt mergeValue
    cases v with
    | mapping es => exact absurd rfl (hnot es)
    | _ => rfl
  · rw [h, at?_eq_none_of_lacks hlacks, hlacks]
    rfl
  · rw [h, hes]
    exact congrArg some (mergeValue_of_not_mapping hnot _)
  · rw [h, hes, hbelow]
    rfl

/-! ## 3. Proper keys -/

mutual

/-- A value merged over another one has proper keys. -/
theorem isKeyed_mergeValue : ∀ {v : Data} {old : Option Data}, v.isKeyed = true →
    (∀ x ∈ old, x.isKeyed = true) → (mergeValue old v).isKeyed = true
  | .mapping es, old, hv, hold => by
      by_cases htarget : ∃ target, old = some (.mapping target)
      · obtain ⟨target, rfl⟩ := htarget
        exact areKeyed_mergeEntries hv (hold _ rfl)
      · rw [mergeValue_of_not_mapping fun target ht => htarget ⟨target, ht⟩]
        exact hv
  | .null, _, _, _ => rfl
  | .bool _, _, _, _ => rfl
  | .int _, _, _, _ => rfl
  | .float _, _, _, _ => rfl
  | .text _, _, _, _ => rfl
  | .bytes _, _, _, _ => rfl
  | .date _, _, _, _ => rfl
  | .moment _, _, _, _ => rfl
  | .list _, _, _, _ => rfl
  | .tuple _, _, _, _ => rfl
  | .set _, _, _, _ => rfl

/-- **Merged entries have proper keys.** -/
theorem areKeyed_mergeEntries : ∀ {es target : Entries}, areKeyed es = true →
    areKeyed target = true → areKeyed (mergeEntries target es) = true
  | [], _, _, ht => ht
  | (k, v) :: rest, target, hes, ht => by
      obtain ⟨hk, _, hv, hrest⟩ := areKeyed_cons.mp hes
      rw [mergeEntries]
      exact areKeyed_mergeEntries hrest
        (areKeyed_put ht hk (isKeyed_mergeValue hv fun x hx => isKeyed_of_lookup? ht hx))

end

/-! ## 4. Merging once more -/

/-- Entries that hold what merging would give are left as they are. -/
theorem mergeEntries_stable : ∀ {es target : Entries},
    (∀ k v, (k, v) ∈ es → ∃ w, target.lookup? k = some w ∧ mergeValue (some w) v = w) →
    mergeEntries target es = target
  | [], _, _ => rfl
  | (k, v) :: rest, target, h => by
      obtain ⟨w, hw, hstable⟩ := h k v List.mem_cons_self
      rw [mergeEntries, hw, hstable, put_lookup? hw]
      exact mergeEntries_stable fun k v hkv => h k v (List.mem_cons_of_mem _ hkv)

/-- Merging a value once more changes nothing. -/
def Settles (v : Data) : Prop :=
  ∀ old : Option Data, (∀ x ∈ old, x.isKeyed = true) →
    mergeValue (some (mergeValue old v)) v = mergeValue old v

/-- Entries whose values settle do so themselves. -/
theorem mergeEntries_settles {es target : Entries} (hes : areKeyed es = true)
    (ht : areKeyed target = true) (h : ∀ e ∈ es, Settles e.2) :
    mergeEntries (mergeEntries target es) es = mergeEntries target es := by
  refine mergeEntries_stable fun k v hkv => ⟨mergeValue (target.lookup? k) v, ?_, ?_⟩
  · rw [lookup?_mergeEntries hes (hasKeys_of_areKeyed ht) (hasKeys_of_areKeyed hes _ hkv),
      lookup?_of_mem hes hkv]
    rfl
  · exact h _ hkv _ fun x hx => isKeyed_of_lookup? ht hx

theorem mergeEntries_self {es : Entries} (hes : areKeyed es = true)
    (h : ∀ e ∈ es, Settles e.2) : mergeEntries es es = es := by
  refine mergeEntries_stable fun k v hkv => ⟨v, lookup?_of_mem hes hkv, ?_⟩
  have hv := h _ hkv none fun x hx => by cases hx
  rw [mergeValue_none] at hv
  exact hv

mutual

/-- Every value settles. -/
theorem settles_of_isKeyed : ∀ {v : Data}, v.isKeyed = true → Settles v
  | .mapping es, hv, old, hold => by
      have hvalues := settles_of_areKeyed hv
      by_cases htarget : ∃ target, old = some (.mapping target)
      · obtain ⟨target, rfl⟩ := htarget
        exact congrArg Data.mapping (mergeEntries_settles hv (hold _ rfl) hvalues)
      · rw [mergeValue_of_not_mapping fun target ht => htarget ⟨target, ht⟩]
        exact congrArg Data.mapping (mergeEntries_self hv hvalues)
  | .null, _, _, _ => rfl
  | .bool _, _, _, _ => rfl
  | .int _, _, _, _ => rfl
  | .float _, _, _, _ => rfl
  | .text _, _, _, _ => rfl
  | .bytes _, _, _, _ => rfl
  | .date _, _, _, _ => rfl
  | .moment _, _, _, _ => rfl
  | .list _, _, _, _ => rfl
  | .tuple _, _, _, _ => rfl
  | .set _, _, _, _ => rfl

theorem settles_of_areKeyed : ∀ {es : Entries}, areKeyed es = true → ∀ e ∈ es, Settles e.2
  | [], _, _, he => absurd he List.not_mem_nil
  | (k, v) :: rest, hes, e, he => by
      obtain ⟨_, _, hv, hrest⟩ := areKeyed_cons.mp hes
      rcases List.mem_cons.mp he with rfl | he
      · exact settles_of_isKeyed hv
      · exact settles_of_areKeyed hrest e he

end

/-- **Merging the same entries once more changes nothing.** -/
theorem mergeEntries_again {es target : Entries} (hes : areKeyed es = true)
    (ht : areKeyed target = true) :
    mergeEntries (mergeEntries target es) es = mergeEntries target es :=
  mergeEntries_settles hes ht (settles_of_areKeyed hes)

/-! ## 5. The keys of merged entries -/

/-- Merging writes the same keys as plain writing. -/
theorem map_mergeEntries : ∀ (fs : Entries) {es ds : Entries}, es.map (·.1) = ds.map (·.1) →
    (mergeEntries es fs).map (·.1) = (ds.update fs).map (·.1)
  | [], _, _, h => h
  | (k, v) :: rest, es, ds, h => by
      rw [mergeEntries]
      exact map_mergeEntries rest (map_put_congr _ v h)

theorem mergeEntries_of_new : ∀ {fs es : Entries}, areKeyed fs = true →
    (∀ e ∈ fs, es.has e.1 = false) → mergeEntries es fs = es ++ fs
  | [], es, _, _ => (List.append_nil es).symm
  | (k, v) :: rest, es, hfs, h => by
      obtain ⟨hfirst, hothers⟩ := List.forall_mem_cons.mp h
      rw [mergeEntries, lookup?_eq_none_of_has hfirst, mergeValue_none, put_of_not_has v hfirst,
        mergeEntries_of_new (areKeyed_cons.mp hfs).2.2.2 (not_has_concat hfs hothers),
        List.append_assoc]
      rfl

theorem mergeEntries_nil {fs : Entries} (h : areKeyed fs = true) : mergeEntries [] fs = fs :=
  mergeEntries_of_new h fun _ _ => rfl

/-- **The other entries of merged entries are the other entries merged.** -/
theorem besides_mergeEntries {keys : List String} : ∀ (fs es : Entries),
    (mergeEntries es fs).besides keys = mergeEntries (es.besides keys) (fs.besides keys)
  | [], _ => rfl
  | (k, v) :: rest, es => by
      rw [mergeEntries, besides_mergeEntries]
      cases hk : k.isAmong keys with
      | true =>
          have hgone : besides ((k, v) :: rest) keys = besides rest keys := by
            simp [besides, hk]
          rw [besides_put_among _ _ hk, hgone]
      | false =>
          have hstays : besides ((k, v) :: rest) keys = (k, v) :: besides rest keys := by
            simp [besides, hk]
          rw [besides_put _ _ hk, hstays, mergeEntries, lookup?_besides hk]

end DomainGen
