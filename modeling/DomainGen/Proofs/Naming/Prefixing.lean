import DomainGen.Proofs.Naming.Ending
import DomainGen.Proofs.Naming.FileName

/-!
# Two keys in a row

With a prefix the capitalised key of an aggregate and that of its entity stand in a row, and nothing
says where the one ends: the items of an order and the parts of an order item can have one name. A
suffix can also be the last word of a key, or be put behind a key without it. Nothing else gives two
pairs of keys one file name.

* `SameButSuffix`, `ensureSuffix_eq_iff` : **texts that are one text with the suffix**;
* `Alphanumeric` : keys of letters and digits;
* `prefixedKey`, `stem_eq_iff` : **pairs of keys that have one file name**;
* `SameButSuffix.owners` : then the key of one aggregate begins with that of the other.
-/

namespace DomainGen

open Text

/-! ## 1. Texts with one suffix -/

/-- Two texts are one text when they have the suffix: they are one text already, or one of them does
    not end with the suffix and is the other when it does. -/
def SameButSuffix (suffix s t : String) : Prop :=
  s = t ∨ (s = t ++ suffix ∧ endsIgnoringCase t.toList suffix.toList = false) ∨
    (t = s ++ suffix ∧ endsIgnoringCase s.toList suffix.toList = false)

instance (suffix s t : String) : Decidable (SameButSuffix suffix s t) :=
  inferInstanceAs (Decidable (_ ∨ (_ ∧ _) ∨ (_ ∧ _)))

/-- A capitalised text only gets the suffix. -/
theorem ensureSuffix_capitalized {s : String} (h : capitalizeFirst s = s) (suffix : String) :
    ensureSuffix s suffix =
      if endsIgnoringCase s.toList suffix.toList then s else s ++ suffix := by
  rw [ensureSuffix_eq]
  unfold missingSuffix
  rw [← toList_capitalizeFirst, h]
  split
  · exact String.append_empty
  · rfl

/-- **Capitalised texts are one text with the suffix exactly if they are the same but for it.** -/
theorem ensureSuffix_eq_iff {s t suffix : String} (hs : capitalizeFirst s = s)
    (ht : capitalizeFirst t = t) (hsuffix : IsAscii suffix.toList) :
    ensureSuffix s suffix = ensureSuffix t suffix ↔ SameButSuffix suffix s t := by
  have hends : ∀ {u v : String}, u = v ++ suffix →
      endsIgnoringCase u.toList suffix.toList = true := by
    rintro u v rfl
    rw [String.toList_append]
    exact endsIgnoringCase_append v.toList hsuffix
  rw [ensureSuffix_capitalized hs, ensureSuffix_capitalized ht]
  unfold SameButSuffix
  cases hends_s : endsIgnoringCase s.toList suffix.toList with
  | true =>
      cases hends_t : endsIgnoringCase t.toList suffix.toList with
      | true => simp
      | false =>
          have hne : s ≠ t := fun h => by simp [h, hends_t] at hends_s
          simp [hne]
  | false =>
      have hs' : ∀ v, s ≠ v ++ suffix := fun v h => by simp [hends h] at hends_s
      cases hends_t : endsIgnoringCase t.toList suffix.toList with
      | true =>
          have hne : s ≠ t := fun h => by simp [h, hends_t] at hends_s
          simp [hne, eq_comm]
      | false =>
          have ht' : t ≠ s ++ suffix := fun h => by simp [hends h] at hends_t
          simp [hs', ht', String.append_left_inj]

/-- Where two texts are the same but for the suffix, one of them begins with the other. -/
theorem SameButSuffix.prefixes {suffix s t : String} (h : SameButSuffix suffix s t) :
    s.toList <+: t.toList ∨ t.toList <+: s.toList := by
  rcases h with rfl | ⟨rfl, -⟩ | ⟨rfl, -⟩
  · exact Or.inl (List.prefix_refl _)
  · rw [String.toList_append]
    exact Or.inr (List.prefix_append _ _)
  · rw [String.toList_append]
    exact Or.inl (List.prefix_append _ _)

/-! ## 2. Keys of letters and digits -/

/-- A key of ASCII letters and digits, and at least one of them. -/
structure Alphanumeric (key : String) : Prop where
  ne_empty : key ≠ ""
  chars : ∀ c ∈ key.toList, c.isAlphanum = true

theorem alphanumeric_iff {key : String} :
    Alphanumeric key ↔ key ≠ "" ∧ key.toList.all Char.isAlphanum = true := by
  rw [List.all_eq_true]
  exact ⟨fun h => ⟨h.ne_empty, h.chars⟩, fun h => ⟨h.1, h.2⟩⟩

instance (key : String) : Decidable (Alphanumeric key) :=
  decidable_of_iff _ alphanumeric_iff.symm

namespace Alphanumeric

variable {key : String}

theorem not_mem (h : Alphanumeric key) {c : Char} (hc : c.isAlphanum = false) :
    c ∉ key.toList := fun hm => by
  rw [h.chars c hm] at hc
  cases hc

theorem unhyphened (h : Alphanumeric key) : Unhyphened key.toList :=
  ⟨fun c hc => isAscii_of_isAlphanum (h.chars c hc), h.not_mem (by decide)⟩

/-- A letter or a digit is neither a slash nor a dot. -/
theorem hasWord (h : Alphanumeric key) : HasWord key.toList := by
  obtain ⟨c, rest, hkey⟩ := List.exists_cons_of_ne_nil (mt String.toList_eq_nil_iff.mp h.ne_empty)
  have hc : c ∈ key.toList := hkey ▸ List.mem_cons_self
  have hslash : c ≠ '/' := fun heq => h.not_mem (by decide) (heq ▸ hc)
  have hdot : c ≠ '.' := fun heq => h.not_mem (by decide) (heq ▸ hc)
  refine ⟨c, hc, ?_⟩
  unfold isMark
  rw [beq_eq_false_iff_ne.mpr hslash, beq_eq_false_iff_ne.mpr hdot]
  rfl

end Alphanumeric

/-! ## 3. Pairs of keys -/

/-- The key of an aggregate and that of its entity, capitalised and in a row. -/
def prefixedKey (owner name : String) : String := capitalizeFirst owner ++ capitalizeFirst name

variable {owner name owner' name' suffix : String}

/-- The key of one aggregate begins with that of the other where the same but for the suffix stands
    in a row. -/
theorem SameButSuffix.owners
    (h : SameButSuffix suffix (prefixedKey owner name) (prefixedKey owner' name')) :
    (capitalizeFirst owner).toList <+: (capitalizeFirst owner').toList ∨
      (capitalizeFirst owner').toList <+: (capitalizeFirst owner).toList := by
  have hfront : ∀ a x : String, (capitalizeFirst a).toList <+: (prefixedKey a x).toList := by
    intro a x
    unfold prefixedKey
    rw [String.toList_append]
    exact List.prefix_append _ _
  rcases h.prefixes with hlong | hlong
  · exact List.prefix_or_prefix_of_prefix ((hfront owner name).trans hlong) (hfront owner' name')
  · exact List.prefix_or_prefix_of_prefix (hfront owner name) ((hfront owner' name').trans hlong)

/-- Two keys in a row as they are prefixed. -/
theorem Unhyphened.prefixedKey (howner : Unhyphened owner.toList) (hname : Unhyphened name.toList) :
    Unhyphened (prefixedKey owner name).toList := by
  unfold DomainGen.prefixedKey
  rw [String.toList_append, toList_capitalizeFirst, toList_capitalizeFirst]
  exact howner.capitalize.append hname.capitalize

theorem capitalizeFirst_prefixedKey (h : owner ≠ "") (name : String) :
    capitalizeFirst (prefixedKey owner name) = prefixedKey owner name :=
  capitalizeFirst_before h _

theorem prefixedKey_ne_empty (h : owner ≠ "") (name : String) : prefixedKey owner name ≠ "" := by
  intro hempty
  have hchars := congrArg String.toList hempty
  unfold prefixedKey at hchars
  rw [String.toList_append, toList_capitalizeFirst] at hchars
  exact capitalize_ne_nil (mt String.toList_eq_nil_iff.mp h) (List.append_eq_nil_iff.mp hchars).1

namespace NamingPolicy

variable {p : NamingPolicy}

/-- With a prefix the keys of both are in a stem. -/
theorem stem_prefixed (h : p.prefixAggregateName = true) (owner name : String) :
    p.stem name (some owner) =
      splitOnCapitals (ensureSuffix (prefixedKey owner name) p.suffix) "-" := by
  have hprefixed : p.filePrefix (some owner) = capitalizeFirst owner := if_pos h
  unfold stem
  rw [hprefixed]
  rfl

/-- **Two pairs of keys have one stem exactly if the keys, in a row, are the same but for the
    suffix.** -/
theorem stem_eq_iff (hprefixed : p.prefixAggregateName = true) (hsuffix : Unhyphened p.suffix.toList)
    (howner : Alphanumeric owner) (hname : Alphanumeric name)
    (howner' : Alphanumeric owner') (hname' : Alphanumeric name') :
    p.stem name (some owner) = p.stem name' (some owner') ↔
      SameButSuffix p.suffix (prefixedKey owner name) (prefixedKey owner' name') := by
  have hsplit : ∀ {a x : String}, Alphanumeric a → Alphanumeric x →
      Splittable (ensureSuffix (prefixedKey a x) p.suffix).toList := fun ha hx =>
    splittable_ensureSuffix (prefixedKey_ne_empty ha.ne_empty _)
      (ha.unhyphened.prefixedKey hx.unhyphened) hsuffix
  rw [stem_prefixed hprefixed, stem_prefixed hprefixed,
    splitOnCapitals_inj (hsplit howner hname) (hsplit howner' hname'),
    ensureSuffix_eq_iff (capitalizeFirst_prefixedKey howner.ne_empty _)
      (capitalizeFirst_prefixedKey howner'.ne_empty _) hsuffix.ascii]

end NamingPolicy

end DomainGen
