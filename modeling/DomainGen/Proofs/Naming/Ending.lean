import DomainGen.Proofs.Naming.ClassName
import DomainGen.Proofs.Naming.Splitting
import DomainGen.Proofs.Text.Case

/-!
# How names begin and end

A name that has its suffix is left as it is, provided it begins with a capital and is seen to end with
the suffix. What `ensureSuffix` returns need not do either: a suffix that is appended to nothing is not
capitalised, and a suffix that begins with a capital sigma has another lower-case form behind a letter
than alone.

A suffix is put behind a name or it is there already, so a name begins with its key and ends with the
suffix. It does not end with the suffix twice unless the key did: a suffix is only put behind a key
that does not end with it, however the two overlap.

* `ensureSuffix_eq_self_iff` : **the names that are left as they are**;
* `ensureSuffix_again_iff` : **appending a suffix twice is appending it once, but for these two
  cases**; `sigma_appended_again` : a sigma is appended again;
* `prefix_ensureSuffix`, `endsIgnoringCase_ensureSuffix` : a name begins with its key and ends with the
  suffix;
* `Suffixed`, `suffixed_ensureSuffix` : **and not twice unless the key did, for ASCII names**;
* `withoutHyphens_splitOnCapitals` : hyphens are all that is put into a text;
* `names_suffixed` : **how class names and file names begin and end, with and without a prefix**.
-/

namespace DomainGen

open Text

/-! ## 1. Names that are left as they are -/

theorem length_capitalize_le (s : List Char) : s.length ≤ (capitalize s).length := by
  cases s with
  | nil => exact Nat.le_refl _
  | cons c rest =>
      have hpos : 0 < (upperChar c).length := List.length_pos_iff.mpr (upperChar_ne_nil c)
      rw [capitalize_cons, List.length_append, List.length_cons]
      omega

/-- A text ends with itself, whatever the case. -/
theorem endsIgnoringCase_self (s : List Char) : endsIgnoringCase s s = true :=
  List.isSuffixOf_iff_suffix.mpr (List.suffix_refl _)

/-- Nothing is missing exactly if the capitalised text ends with the suffix. -/
theorem missingSuffix_eq_empty_iff {s suffix : String} : missingSuffix s suffix = "" ↔
    endsIgnoringCase (capitalize s.toList) suffix.toList = true := by
  unfold missingSuffix
  split
  · rename_i hends
    exact iff_of_true rfl hends
  · rename_i hends
    refine iff_of_false ?_ hends
    rintro rfl
    exact hends (List.isSuffixOf_iff_suffix.mpr (List.nil_suffix))

/-- **A name is left as it is exactly if it is capitalised and ends with the suffix.** -/
theorem ensureSuffix_eq_self_iff {s suffix : String} : ensureSuffix s suffix = s ↔
    capitalizeFirst s = s ∧ endsIgnoringCase s.toList suffix.toList = true := by
  rw [ensureSuffix_eq]
  constructor
  · intro h
    have hlength := congrArg (fun t : String => t.toList.length) h
    have hle := length_capitalize_le s.toList
    rw [← toList_capitalizeFirst] at hle
    simp only [String.toList_append, List.length_append] at hlength
    have hmissing : missingSuffix s suffix = "" :=
      String.toList_eq_nil_iff.mp (List.length_eq_zero_iff.mp (by omega))
    rw [hmissing, String.append_empty] at h
    have hends := missingSuffix_eq_empty_iff.mp hmissing
    rw [← toList_capitalizeFirst, h] at hends
    exact ⟨h, hends⟩
  · rintro ⟨hcapital, hends⟩
    have hmissing : missingSuffix s suffix = "" := by
      rw [missingSuffix_eq_empty_iff, ← toList_capitalizeFirst, hcapital]
      exact hends
    rw [hmissing, hcapital, String.append_empty]

/-! ## 2. Appending a suffix twice -/

/-- A capitalised name stays capitalised whatever stands behind it. -/
theorem capitalizeFirst_before {s : String} (h : s ≠ "") (t : String) :
    capitalizeFirst (capitalizeFirst s ++ t) = capitalizeFirst s ++ t := by
  have hne : capitalize s.toList ≠ [] := capitalize_ne_nil fun hnil =>
    h (String.toList_eq_nil_iff.mp hnil)
  refine String.toList_injective ?_
  rw [toList_capitalizeFirst, String.toList_append, toList_capitalizeFirst,
    capitalize_append hne, capitalize_capitalize]

/-- **Appending a suffix twice is appending it once, but for two cases**: the suffix was appended to
    nothing and is not capitalised, or it was appended to a name that ends with a cased character and
    begins with a sigma that becomes the final one there. -/
theorem ensureSuffix_again_iff (s suffix : String) :
    ensureSuffix (ensureSuffix s suffix) suffix = ensureSuffix s suffix ↔
      endsIgnoringCase (capitalize s.toList) suffix.toList = true ∨
        (s = "" ∧ capitalizeFirst suffix = suffix) ∨
        (s ≠ "" ∧ ¬ (startsCased (capitalize s.toList).reverse = true ∧
          beginsFinal suffix.toList = true)) := by
  cases hends : endsIgnoringCase (capitalize s.toList) suffix.toList with
  | true =>
      have honce : ensureSuffix s suffix = capitalizeFirst s := by
        rw [ensureSuffix_eq, missingSuffix_eq_empty_iff.mpr hends, String.append_empty]
      refine iff_of_true ?_ (Or.inl rfl)
      rw [honce, ensureSuffix_capitalizeFirst, honce]
  | false =>
      have honce : ensureSuffix s suffix = capitalizeFirst s ++ suffix := by
        rw [ensureSuffix_eq]
        unfold missingSuffix
        rw [hends]
        rfl
      rw [ensureSuffix_eq_self_iff, honce, or_iff_right Bool.false_ne_true]
      by_cases hs : s = ""
      · have hnothing : capitalizeFirst s ++ suffix = suffix := by
          rw [hs]
          exact String.empty_append
        rw [hnothing, endsIgnoringCase_self, or_iff_left fun h => h.1 hs]
        exact ⟨fun h => ⟨hs, h.1⟩, fun h => ⟨h.2, rfl⟩⟩
      · rw [capitalizeFirst_before hs, String.toList_append, toList_capitalizeFirst,
          or_iff_right fun h => hs h.1, ← suffix_lower_append_iff]
        unfold endsIgnoringCase
        rw [List.isSuffixOf_iff_suffix]
        exact ⟨fun h => ⟨hs, h.2⟩, fun h => ⟨rfl, h.2⟩⟩

/-- **A sigma is appended again and again**: behind a letter it is a final sigma, which is not the form
    of a sigma alone. -/
theorem sigma_appended_again : ensureSuffix "A" "Σ" = "AΣ" ∧ ensureSuffix "AΣ" "Σ" = "AΣΣ" ∧
    ensureSuffix (ensureSuffix "A" "Σ") "Σ" ≠ ensureSuffix "A" "Σ" := by
  decide +kernel

-- a suffix that is appended to nothing keeps its small letter until it is appended again
example : ensureSuffix "" "event" = "event" ∧ ensureSuffix "event" "event" = "Event" := by
  decide +kernel

/-! ## 3. The beginning and the end -/

/-- A name begins with its key, capitalised. -/
theorem prefix_ensureSuffix (key suffix : String) :
    (capitalizeFirst key).toList <+: (ensureSuffix key suffix).toList := by
  rw [ensureSuffix_eq, String.toList_append]
  exact List.prefix_append _ _

/-- An ASCII text is found at the end of whatever it is put behind. -/
theorem endsIgnoringCase_append (s : List Char) {t : List Char} (h : IsAscii t) :
    endsIgnoringCase (s ++ t) t = true := by
  have hsuffix := suffix_lowerAfter_append [] s t
  rw [lowerAfter_ascii h, ← lower_ascii h] at hsuffix
  exact List.isSuffixOf_iff_suffix.mpr hsuffix

/-- **A name ends with its suffix.** Only the suffix must be ASCII: a capital sigma at the end of the
    key stays what it is. -/
theorem endsIgnoringCase_ensureSuffix (key : String) {suffix : String}
    (h : IsAscii suffix.toList) :
    endsIgnoringCase (ensureSuffix key suffix).toList suffix.toList = true := by
  unfold ensureSuffix
  rw [String.toList_ofList]
  split
  · assumption
  · exact endsIgnoringCase_append _ h

/-- In ASCII the end is compared character by character. -/
theorem endsIgnoringCase_ascii {s t : List Char} (hs : IsAscii s) (ht : IsAscii t) :
    endsIgnoringCase s t = true ↔ t.map Char.toLower <:+ s.map Char.toLower := by
  unfold endsIgnoringCase
  rw [List.isSuffixOf_iff_suffix, lower_ascii hs, lower_ascii ht]

/-! ## 4. Once and not twice -/

/-- A name begins with its key, capitalised, and ends with its suffix, whatever the case. It ends with
    the suffix twice in a row only if the key does. -/
structure Suffixed (name key suffix : String) : Prop where
  begins : (capitalizeFirst key).toList <+: name.toList
  ends : endsIgnoringCase name.toList suffix.toList = true
  once : endsIgnoringCase name.toList (suffix ++ suffix).toList = true →
    endsIgnoringCase key.toList (suffix ++ suffix).toList = true

/-- A key ends with a text if the key with a capital does. -/
theorem endsIgnoringCase_capitalize {s : List Char} (h : IsAscii s) (t : List Char) :
    endsIgnoringCase (capitalize s) t = endsIgnoringCase s t := by
  unfold endsIgnoringCase
  rw [lower_capitalize_ascii h]

/-- What ends with a text twice after the text was put behind it ended with the text before. -/
theorem endsIgnoringCase_of_twice {s t : List Char} (hs : IsAscii s) (ht : IsAscii t)
    (h : endsIgnoringCase (s ++ t) (t ++ t) = true) : endsIgnoringCase s t = true := by
  have htwice := (endsIgnoringCase_ascii (isAscii_append.mpr ⟨hs, ht⟩)
    (isAscii_append.mpr ⟨ht, ht⟩)).mp h
  rw [List.map_append, List.map_append, List.suffix_append_self_iff] at htwice
  exact (endsIgnoringCase_ascii hs ht).mpr htwice

/-- **A name has its key in front and its suffix behind, and the suffix once.** -/
theorem suffixed_ensureSuffix {key suffix : String} (hkey : IsAscii key.toList)
    (hsuffix : IsAscii suffix.toList) : Suffixed (ensureSuffix key suffix) key suffix := by
  refine ⟨prefix_ensureSuffix key suffix, endsIgnoringCase_ensureSuffix key hsuffix, fun h => ?_⟩
  unfold ensureSuffix at h
  rw [String.toList_ofList] at h
  split at h
  · rw [endsIgnoringCase_capitalize hkey] at h
    exact h
  · rename_i hends
    rw [String.toList_append] at h
    exact absurd (endsIgnoringCase_of_twice hkey.capitalize hsuffix h) hends

/-! ## 5. File names -/

/-- A text without its hyphens. -/
def withoutHyphens (s : List Char) : List Char := s.filter (· != '-')

theorem withoutHyphens_append (s t : List Char) :
    withoutHyphens (s ++ t) = withoutHyphens s ++ withoutHyphens t := List.filter_append _ _

theorem withoutHyphens_hyphened {c : Char} (h : c.toNat < 128) :
    withoutHyphens (hyphened c) = withoutHyphens [c.toLower] := by
  cases hupper : isUpper c with
  | true =>
      rw [hyphened_upper hupper]
      exact List.filter_cons_of_neg (by decide)
  | false => rw [hyphened_other hupper, toLower_of_not_upper h hupper]

theorem withoutHyphens_flatMap {rest : List Char} (h : IsAscii rest) :
    withoutHyphens (rest.flatMap hyphened) = withoutHyphens (rest.map Char.toLower) := by
  induction rest with
  | nil => rfl
  | cons c rest ih =>
      obtain ⟨hc, hrest⟩ := isAscii_cons.mp h
      rw [List.flatMap_cons, withoutHyphens_append, withoutHyphens_hyphened hc, ih hrest,
        ← withoutHyphens_append]
      rfl

/-- **Hyphens are all that is put into a text**: apart from them it is in lower case and nothing
    else. -/
theorem withoutHyphens_splitOnCapitals {s : String} (h : IsAscii s.toList) :
    withoutHyphens (splitOnCapitals s "-").toList = withoutHyphens (lower s.toList) := by
  cases hs : s.toList with
  | nil =>
      obtain rfl := String.toList_eq_nil_iff.mp hs
      rfl
  | cons c rest =>
      have hsplit := splitOnCapitals_cons hs h
      rw [hs] at h
      have hrest := withoutHyphens_flatMap (isAscii_cons.mp h).2
      calc withoutHyphens (splitOnCapitals s "-").toList
          = withoutHyphens ([c.toLower] ++ rest.flatMap hyphened) := congrArg withoutHyphens hsplit
        _ = withoutHyphens ([c.toLower] ++ rest.map Char.toLower) := by
            rw [withoutHyphens_append, hrest, ← withoutHyphens_append]
        _ = withoutHyphens (lower (c :: rest)) := by
            rw [lower_ascii h]
            rfl

/-- **A hyphenated text ends as the text does, apart from hyphens.** -/
theorem withoutHyphens_suffix {s suffix : String} (hs : IsAscii s.toList)
    (h : endsIgnoringCase s.toList suffix.toList = true) :
    withoutHyphens (lower suffix.toList) <:+ withoutHyphens (splitOnCapitals s "-").toList := by
  rw [withoutHyphens_splitOnCapitals hs]
  exact (List.isSuffixOf_iff_suffix.mp h).filter _

/-! ## 6. Main result -/

theorem isAscii_ensureSuffix {key suffix : String} (hkey : IsAscii key.toList)
    (hsuffix : IsAscii suffix.toList) : IsAscii (ensureSuffix key suffix).toList := by
  unfold ensureSuffix
  rw [String.toList_ofList]
  split
  · exact hkey.capitalize
  · exact isAscii_append.mpr ⟨hkey.capitalize, hsuffix⟩

/-- **How names begin and end.** An ASCII key with an ASCII suffix begins with the key, capitalised, and
    ends with the suffix, ignoring case; it ends with the suffix twice in a row only if the key does.
    Without a prefix the class name is this text, and the file name, its extension removed, ends with
    the suffix in lower case when hyphens are left out of both. With a prefix the class name begins
    with the capitalised key of the aggregate, whatever that is, and ends with the suffixed key of the
    entity, ignoring case. -/
theorem names_suffixed :
    (∀ key suffix : String, IsAscii key.toList → IsAscii suffix.toList →
      Suffixed (ensureSuffix key suffix) key suffix) ∧
    ∀ (p : NamingPolicy) (key : String), IsAscii key.toList → IsAscii p.suffix.toList →
      (∀ owner : Option String, owner = none ∨ p.prefixAggregateName = false →
        Suffixed (p.publishedName key owner) key p.suffix ∧
        ∃ stem, p.fileName key owner = stem ++ p.extension ∧
          withoutHyphens (lower p.suffix.toList) <:+ withoutHyphens stem.toList) ∧
      (p.prefixAggregateName = true → ∀ owner : String,
        (capitalizeFirst owner).toList <+: (p.publishedName key (some owner)).toList ∧
        endsIgnoringCase (p.publishedName key (some owner)).toList
          (ensureSuffix key p.suffix).toList = true) := by
  refine ⟨fun key suffix => suffixed_ensureSuffix, fun p key hkey hsuffix =>
    ⟨fun owner hplain => ?_, fun hprefixed owner => ?_⟩⟩
  · have hsuffixed := suffixed_ensureSuffix hkey hsuffix
    have hfile := NamingPolicy.fileName_unprefixed hplain key
    rw [NamingPolicy.publishedName_unprefixed hplain] at hfile ⊢
    exact ⟨hsuffixed, _, hfile,
      withoutHyphens_suffix (isAscii_ensureSuffix hkey hsuffix) hsuffixed.ends⟩
  · have hpublished : p.publishedName key (some owner) =
        ensureSuffix owner (ensureSuffix key p.suffix) := if_pos hprefixed
    rw [hpublished]
    exact ⟨prefix_ensureSuffix _ _,
      endsIgnoringCase_ensureSuffix owner (isAscii_ensureSuffix hkey hsuffix)⟩

/-- A policy with a hyphen in its suffix. -/
def hyphenPolicy : NamingPolicy := ⟨".js", "events", "e-Event", false⟩

/-- A key that ends with a part of the suffix, one that ends with the suffix twice, a suffix with a
    hyphen and a capital in it, and an aggregate whose key is no ASCII text. -/
theorem names_suffixed_overlapping :
    ensureSuffix "banana" "anan" = "Bananaanan" ∧
    endsIgnoringCase "Bananaanan".toList ("anan" ++ "anan").toList = false ∧
    Suffixed (ensureSuffix "anaana" "ANA") "anaana" "ANA" ∧
    hyphenPolicy.fileName "orderPlacE-event" none = "order-plac-e-event.js" ∧
    (∃ stem, hyphenPolicy.fileName "orderPlacE-event" none = stem ++ ".js" ∧
      withoutHyphens "e-event".toList <:+ withoutHyphens stem.toList) ∧
    endsIgnoringCase ({ hyphenPolicy with prefixAggregateName := true }.publishedName "placed"
      (some "ΟΔΟΣ")).toList "Placede-Event".toList = true := by
  obtain ⟨hall, hnames⟩ := names_suffixed
  have hbanana : IsAscii "banana".toList := by decide +kernel
  have hanan : IsAscii "anan".toList := by decide +kernel
  have hkey : IsAscii "orderPlacE-event".toList := by decide +kernel
  have hplaced : IsAscii "placed".toList := by decide +kernel
  have hsuffix : IsAscii hyphenPolicy.suffix.toList := by decide +kernel
  have honce := (hall "banana" "anan" hbanana hanan).once
  have happended : ensureSuffix "banana" "anan" = "Bananaanan" := by decide +kernel
  rw [happended] at honce
  obtain ⟨-, stem, hfile, hends⟩ := (hnames hyphenPolicy _ hkey hsuffix).1 none (Or.inl rfl)
  have hlower : lower hyphenPolicy.suffix.toList = "e-event".toList := by decide +kernel
  rw [hlower] at hends
  refine ⟨happended, Bool.eq_false_iff.mpr fun h => ?_,
    hall _ _ (by decide +kernel) (by decide +kernel), by decide +kernel, ⟨stem, hfile, hends⟩, ?_⟩
  · exact absurd (honce h) (by decide +kernel)
  · have hsuffixed : ensureSuffix "placed" "e-Event" = "Placede-Event" := by decide +kernel
    rw [← hsuffixed]
    exact ((hnames { hyphenPolicy with prefixAggregateName := true } _ hplaced hsuffix).2 rfl _).2

end DomainGen
