import DomainGen.Data.Sequence
import DomainGen.Data.Text
import DomainGen.Proofs.Config.Merging
import DomainGen.Proofs.Data.Overriding
import DomainGen.Proofs.Except

/-!
# Plain data with a JSON form

Null, truth values, numbers, texts, lists and mappings from texts. No number is not-a-number. How large
an integer may be is said apart: `anySize` sets no bound, and `isShort` the one that keeps an integer from
having too many digits for a text. Only short integers can be written.

* `Data.isJson` : these values, with integers that fit;
* `areMembers_iff` : the members of an object have texts as keys, no two the same;
* `isJson_of_lookup?`, `areMembers_update`, `areMembers_mergeEntries` : reading, writing and merging
  stay among them; `isJson_of_asEntries` : and so does reading a value as entries.
-/

namespace DomainGen

/-- Is it a number, or an infinity? -/
def Binary64.isNumber (x : Binary64) : Bool :=
  match x with
  | .nan _ => false
  | x => x.isFitting

namespace Data

/-- Every integer fits. -/
def anySize (_ : Int) : Bool := true

/-- The integer can be written: it has no more digits than a text of an integer may have. -/
def isShort (i : Int) : Bool := (Data.int i).hasText

mutual

/-- Is it a value of JSON, with integers that fit? -/
def isJson (fits : Int → Bool) : Data → Bool
  | .null => true
  | .bool _ => true
  | .int i => fits i
  | .float x => x.isNumber
  | .text _ => true
  | .list xs => areJson fits xs
  | .mapping es => areMembers fits es
  | _ => false

/-- Are they values of JSON, with integers that fit? -/
def areJson (fits : Int → Bool) : List Data → Bool
  | [] => true
  | x :: xs => isJson fits x && areJson fits xs

/-- Are some entries members of an object, with integers that fit? Their keys are texts, no two of them
    the same. -/
def areMembers (fits : Int → Bool) : List (Data × Data) → Bool
  | [] => true
  | (k, v) :: rest =>
    k.text?.isSome && !Entries.has rest k && isJson fits v && areMembers fits rest

end

variable {fits : Int → Bool}

theorem areMembers_cons {k v : Data} {rest : Entries} :
    areMembers fits ((k, v) :: rest) = true ↔ (∃ s, k = .text s) ∧ Entries.has rest k = false ∧
      v.isJson fits = true ∧ areMembers fits rest = true := by
  have htext : k.text?.isSome = true ↔ ∃ s, k = .text s := by
    cases k <;> simp [text?]
  simp only [areMembers, Bool.and_eq_true, Bool.not_eq_true', and_assoc, htext]

theorem areJson_iff : ∀ {xs : List Data}, areJson fits xs = true ↔ ∀ x ∈ xs, x.isJson fits = true
  | [] => ⟨fun _ x hx => absurd hx List.not_mem_nil, fun _ => rfl⟩
  | x :: xs => by
      rw [List.forall_mem_cons, ← areJson_iff, areJson, Bool.and_eq_true]

/-- **Members are entries whose keys are texts, no two the same.** -/
theorem areMembers_iff : ∀ {es : Entries}, areMembers fits es = true ↔
    (∃ names : List String, names.Nodup ∧ es.map (·.1) = names.map .text) ∧
      ∀ e ∈ es, e.2.isJson fits = true
  | [] => ⟨fun _ => ⟨⟨[], List.nodup_nil, rfl⟩, fun _ he => absurd he List.not_mem_nil⟩, fun _ => rfl⟩
  | (k, v) :: rest => by
      have hhas : ∀ (s : String) (names : List String), rest.map (·.1) = names.map .text →
          (Entries.has rest (.text s) = false ↔ s ∉ names) := by
        intro s names h
        rw [Entries.has_eq_map, h, List.any_map, List.any_eq_false]
        simp only [Function.comp_apply, sameKey_text, beq_iff_eq]
        exact ⟨fun hne hs => hne s hs rfl, fun hs x hx heq => hs (heq ▸ hx)⟩
      rw [areMembers_cons, areMembers_iff, List.forall_mem_cons]
      constructor
      · rintro ⟨⟨s, rfl⟩, hnew, hv, ⟨names, hnodup, hnames⟩, hrest⟩
        have hs := (hhas s names hnames).mp hnew
        exact ⟨⟨s :: names, List.nodup_cons.mpr ⟨hs, hnodup⟩,
          congrArg (Data.text s :: ·) hnames⟩, hv, hrest⟩
      · rintro ⟨⟨names, hnodup, hnames⟩, hv, hrest⟩
        cases names with
        | nil => cases hnames
        | cons s names =>
            obtain ⟨rfl, htail⟩ := List.cons.inj hnames
            obtain ⟨hs, hnodup⟩ := List.nodup_cons.mp hnodup
            exact ⟨⟨s, rfl⟩, (hhas s names htail).mpr hs, hv, ⟨names, hnodup, htail⟩, hrest⟩

/-! ## 1. Keys -/

theorem areKeyed_of_areMembers : ∀ {es : Entries}, areMembers fits es = true → areKeyed es = true
  | [], _ => rfl
  | (k, v) :: rest, h => by
      obtain ⟨⟨s, rfl⟩, hnew, hv, hrest⟩ := areMembers_cons.mp h
      refine areKeyed_cons.mpr ⟨rfl, hnew, ?_, areKeyed_of_areMembers hrest⟩
      cases v with
      | mapping es => exact areKeyed_of_areMembers hv
      | _ => rfl

/-! ## 2. Reading and writing -/

theorem isJson_of_lookup? {es : Entries} {x v : Data} (hes : areMembers fits es = true)
    (h : es.lookup? x = some v) : v.isJson fits = true := by
  induction es with
  | nil => cases h
  | cons e rest ih =>
      obtain ⟨_, _, hv, hrest⟩ := areMembers_cons.mp hes
      rw [Entries.lookup?_cons] at h
      split at h
      · cases h
        exact hv
      · exact ih hrest h

theorem areMembers_put : ∀ {es : Entries} {s : String} {v : Data}, areMembers fits es = true →
    v.isJson fits = true → areMembers fits (es.put (.text s) v) = true
  | [], _, _, _, hv => areMembers_cons.mpr ⟨⟨_, rfl⟩, rfl, hv, rfl⟩
  | (k, w) :: rest, s, v, hes, hv => by
      obtain ⟨⟨t, rfl⟩, hnew, hw, hrest⟩ := areMembers_cons.mp hes
      unfold Entries.put
      split
      · exact areMembers_cons.mpr ⟨⟨t, rfl⟩, hnew, hv, hrest⟩
      · rename_i hother
        refine areMembers_cons.mpr ⟨⟨t, rfl⟩, ?_, hw, areMembers_put hrest hv⟩
        rw [Entries.has_put v (Entries.hasKeys_of_areKeyed (areKeyed_of_areMembers hrest)) rfl rfl,
          hnew, sameKey_symm rfl rfl]
        exact Bool.not_eq_true _ ▸ hother

theorem areMembers_update : ∀ {fs es : Entries}, areMembers fits es = true → areMembers fits fs = true →
    areMembers fits (es.update fs) = true
  | [], _, hes, _ => hes
  | (k, v) :: rest, es, hes, hfs => by
      obtain ⟨⟨s, rfl⟩, _, hv, hrest⟩ := areMembers_cons.mp hfs
      show areMembers fits (Entries.update (es.put (.text s) v) rest) = true
      exact areMembers_update (areMembers_put hes hv) hrest

/-- Some of the members are members. -/
theorem areMembers_of_sublist {es fs : Entries} (h : fs.Sublist es) (hes : areMembers fits es = true) :
    areMembers fits fs = true := by
  obtain ⟨⟨names, hnodup, hnames⟩, hvalues⟩ := areMembers_iff.mp hes
  obtain ⟨some, hsome, hkeys⟩ := List.sublist_map_iff.mp (hnames ▸ h.map Prod.fst)
  exact areMembers_iff.mpr ⟨⟨some, hnodup.sublist hsome, hkeys⟩,
    fun e he => hvalues e (h.subset he)⟩

theorem areMembers_besides (keys : List String) {es : Entries} (hes : areMembers fits es = true) :
    areMembers fits (es.besides keys) = true :=
  areMembers_of_sublist List.filter_sublist hes

theorem areMembers_ofFields {fields : List (String × Data)} (hn : (fields.map (·.1)).Nodup)
    (h : ∀ x ∈ fields, x.2.isJson fits = true) : areMembers fits (Entries.ofFields fields) = true := by
  refine areMembers_iff.mpr ⟨⟨fields.map (·.1), hn, Entries.map_ofFields fields⟩, fun e he => ?_⟩
  obtain ⟨x, hx, rfl⟩ := List.mem_map.mp he
  exact h x hx

/-! ## 3. Values read as entries -/

theorem isJson_of_items? {x : Data} {xs : List Data} (hx : x.isJson fits = true)
    (h : x.items? = some xs) : ∀ y ∈ xs, y.isJson fits = true := by
  cases x with
  | list ys =>
      cases h
      exact areJson_iff.mp hx
  | text s =>
      cases h
      intro y hy
      obtain ⟨c, _, rfl⟩ := List.mem_map.mp hy
      rfl
  | mapping es =>
      cases h
      obtain ⟨⟨names, _, hnames⟩, _⟩ := areMembers_iff.mp hx
      intro y hy
      rw [hnames] at hy
      obtain ⟨s, _, rfl⟩ := List.mem_map.mp hy
      rfl
  | tuple ys => cases hx
  | set ys => cases hx
  | bytes bs => cases hx
  | _ => cases h

theorem isJson_of_items {x : Data} {xs : List Data} (hx : x.isJson fits = true)
    (h : x.items = .ok xs) : ∀ y ∈ xs, y.isJson fits = true := by
  unfold items at h
  split at h
  · rename_i ys hys
    cases h
    exact isJson_of_items? hx hys
  · cases h

theorem isJson_of_asEntry {x : Data} {e : Data × Data} (hx : x.isJson fits = true)
    (h : x.asEntry = .ok e) : e.2.isJson fits = true := by
  obtain ⟨xs, hxs, h⟩ := except_bind_eq_ok.mp h
  have hitems := isJson_of_items hx hxs
  split at h
  · split at h
    · cases h
      exact hitems _ (List.mem_cons_of_mem _ List.mem_cons_self)
    · cases h
  · cases h

/-- **Read as entries, such a value has such values.** -/
theorem isJson_of_asEntries {x : Data} {es : Entries} (hx : x.isJson fits = true)
    (h : x.asEntries = .ok es) : ∀ e ∈ es, e.2.isJson fits = true := by
  unfold asEntries at h
  split at h
  · cases h
    exact (areMembers_iff.mp hx).2
  · obtain ⟨xs, hxs, h⟩ := except_bind_eq_ok.mp h
    obtain ⟨pairs, hpairs, h⟩ := except_bind_eq_ok.mp h
    cases h
    refine Entries.forall_mem_update (P := fun v => v.isJson fits = true)
      (fun _ he => absurd he List.not_mem_nil) fun e he => ?_
    obtain ⟨y, hy, hread⟩ := exists_of_mem_mapM hpairs he
    exact isJson_of_asEntry (isJson_of_items hx hxs y hy) hread

/-! ## 4. Merging -/

mutual

theorem isJson_mergeValue : ∀ (v : Data) {old : Option Data}, v.isJson fits = true →
    (∀ x ∈ old, x.isJson fits = true) → (mergeValue old v).isJson fits = true
  | v, old, hv, hold => by
      by_cases htarget : ∃ target, old = some (.mapping target)
      · obtain ⟨target, rfl⟩ := htarget
        cases v with
        | mapping es => exact areMembers_mergeEntries es hv (hold _ rfl)
        | _ =>
            unfold mergeValue
            exact hv
      · rw [mergeValue_of_not_mapping fun target ht => htarget ⟨target, ht⟩]
        exact hv

/-- **Merged members are members.** -/
theorem areMembers_mergeEntries : ∀ (es : Entries) {target : Entries}, areMembers fits es = true →
    areMembers fits target = true → areMembers fits (mergeEntries target es) = true
  | [], _, _, ht => ht
  | (k, v) :: rest, target, hes, ht => by
      obtain ⟨⟨s, rfl⟩, _, hv, hrest⟩ := areMembers_cons.mp hes
      rw [mergeEntries]
      exact areMembers_mergeEntries rest hrest
        (areMembers_put ht (isJson_mergeValue v hv fun x hx => isJson_of_lookup? ht hx))

end

end Data

end DomainGen
