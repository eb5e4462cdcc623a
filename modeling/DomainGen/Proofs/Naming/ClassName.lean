import DomainGen.Proofs.Naming.FileName

/-!
# Class names and file names

Class names and file names are derived apart from each other. Without a prefix both come from one
text. With a prefix they need not: the suffix is looked for in the key alone for the one and in the
prefixed key for the other, and only the class name leaves the key out if the aggregate's name ends
with it.

* `NamingPolicy.diverges` : the names come apart, in one of two ways (`absorbs`, `straddles`);
* `NamingPolicy.fileName_eq` : **otherwise a file name is the class name, hyphenated**, so that
  different file names have different class names;
* `Naming.Unprefixed` : no name gets a prefix; `Naming.fileName_eq_map` : then the same holds of
  whatever is named.
-/

namespace DomainGen

open Text

/-! ## 1. Capitalised texts -/

theorem capitalizeFirst_capitalizeFirst (s : String) :
    capitalizeFirst (capitalizeFirst s) = capitalizeFirst s := by
  unfold capitalizeFirst
  rw [String.toList_ofList, capitalize_capitalize]

/-- Capitalised texts in a row are a capitalised text. -/
theorem capitalizeFirst_append (s t : String) :
    capitalizeFirst (capitalizeFirst s ++ capitalizeFirst t) =
      capitalizeFirst s ++ capitalizeFirst t := by
  refine String.toList_injective ?_
  rw [toList_capitalizeFirst, String.toList_append, toList_capitalizeFirst, toList_capitalizeFirst]
  cases hs : s.toList with
  | nil => exact capitalize_capitalize t.toList
  | cons c rest =>
      rw [capitalize_append (capitalize_ne_nil (List.cons_ne_nil c rest)), capitalize_capitalize]

theorem missingSuffix_congr {s t suffix : String}
    (h : endsIgnoringCase (capitalize s.toList) suffix.toList =
      endsIgnoringCase (capitalize t.toList) suffix.toList) :
    missingSuffix s suffix = missingSuffix t suffix := by
  unfold missingSuffix
  rw [h]

/-- The suffix of a text does not depend on the case of its first character. -/
theorem ensureSuffix_capitalizeFirst (s suffix : String) :
    ensureSuffix (capitalizeFirst s) suffix = ensureSuffix s suffix := by
  have hmissing : missingSuffix (capitalizeFirst s) suffix = missingSuffix s suffix := by
    refine missingSuffix_congr ?_
    rw [toList_capitalizeFirst, capitalize_capitalize]
  rw [ensureSuffix_eq, ensureSuffix_eq, hmissing, capitalizeFirst_capitalizeFirst]

/-! ## 2. Names with a prefix -/

namespace NamingPolicy

variable (p : NamingPolicy)

/-- The aggregate's name ends with the suffixed key, so the class name leaves the key out and the
    file name does not. -/
def absorbs (name owner : String) : Bool :=
  p.prefixAggregateName && ensureSuffix name p.suffix != "" &&
    endsIgnoringCase (capitalize owner.toList) (ensureSuffix name p.suffix).toList

/-- The suffix is found in the prefixed key but not in the key alone, or the other way round. -/
def straddles (name owner : String) : Bool :=
  p.prefixAggregateName &&
    endsIgnoringCase (capitalize owner.toList ++ capitalize name.toList) p.suffix.toList !=
      endsIgnoringCase (capitalize name.toList) p.suffix.toList

/-- The class name and the file name of an entity come from different texts. -/
def diverges (name owner : String) : Bool := p.absorbs name owner || p.straddles name owner

variable {p}

theorem not_diverges (h : p.prefixAggregateName = false) (name owner : String) :
    p.diverges name owner = false := by
  unfold diverges absorbs straddles
  rw [h]
  rfl

/-- A class name that leaves nothing out. -/
theorem publishedName_prefixed (hp : p.prefixAggregateName = true) {name owner : String}
    (h : p.absorbs name owner = false) :
    p.publishedName name (some owner) =
      capitalizeFirst owner ++ capitalizeFirst name ++ missingSuffix name p.suffix := by
  have hpublished : p.publishedName name (some owner) =
      ensureSuffix owner (ensureSuffix name p.suffix) := by
    unfold publishedName
    exact if_pos hp
  have hwhole : missingSuffix owner (ensureSuffix name p.suffix) = ensureSuffix name p.suffix := by
    unfold missingSuffix
    split
    · rename_i hends
      unfold absorbs at h
      rw [hp, hends, Bool.and_true, Bool.true_and, bne_eq_false_iff_eq] at h
      exact h.symm
    · rfl
  rw [hpublished, ensureSuffix_eq owner, hwhole, ensureSuffix_eq name, String.append_assoc]

/-- **A file name is the class name, hyphenated, unless the two come apart.** -/
theorem fileName_eq {name owner : String} (h : p.diverges name owner = false) :
    p.fileName name (some owner) =
      splitOnCapitals (p.publishedName name (some owner)) "-" ++ p.extension := by
  obtain ⟨habsorbs, hstraddles⟩ := Bool.or_eq_false_iff.mp h
  have hbase : ensureSuffix (p.filePrefix (some owner) ++ capitalizeFirst name) p.suffix =
      p.publishedName name (some owner) := by
    cases hp : p.prefixAggregateName with
    | false =>
        have hfront : p.filePrefix (some owner) = "" := if_neg (Bool.eq_false_iff.mp hp)
        have hpublished : p.publishedName name (some owner) = ensureSuffix name p.suffix :=
          if_neg (Bool.eq_false_iff.mp hp)
        rw [hfront, hpublished, String.empty_append, ensureSuffix_capitalizeFirst]
    | true =>
        have hfront : p.filePrefix (some owner) = capitalizeFirst owner := if_pos hp
        have hsuffix : missingSuffix (capitalizeFirst owner ++ capitalizeFirst name) p.suffix =
            missingSuffix name p.suffix := by
          refine missingSuffix_congr ?_
          unfold straddles at hstraddles
          rw [hp, Bool.true_and, bne_eq_false_iff_eq] at hstraddles
          rw [← toList_capitalizeFirst, capitalizeFirst_append, String.toList_append,
            toList_capitalizeFirst, toList_capitalizeFirst, hstraddles]
        rw [hfront, ensureSuffix_eq, capitalizeFirst_append, hsuffix,
          publishedName_prefixed hp habsorbs]
  unfold fileName
  rw [hbase]

/-! ## 3. Names without a prefix -/

/-- Without a prefix the class name is the key with the suffix. -/
theorem publishedName_unprefixed {owner : Option String}
    (h : owner = none ∨ p.prefixAggregateName = false) (name : String) :
    p.publishedName name owner = ensureSuffix name p.suffix := by
  cases owner with
  | none => rfl
  | some owner => exact if_neg (Bool.eq_false_iff.mp (h.resolve_left (Option.some_ne_none owner)))

/-- **Without a prefix a file name is the class name, hyphenated**: nothing stands before the key, and
    whether it has the suffix does not depend on its first letter. -/
theorem fileName_unprefixed {owner : Option String}
    (h : owner = none ∨ p.prefixAggregateName = false) (name : String) :
    p.fileName name owner = splitOnCapitals (p.publishedName name owner) "-" ++ p.extension := by
  cases owner with
  | none =>
      have hfile : p.fileName name none =
          splitOnCapitals (ensureSuffix ("" ++ capitalizeFirst name) p.suffix) "-" ++ p.extension :=
        rfl
      rw [hfile, String.empty_append, ensureSuffix_capitalizeFirst]
      rfl
  | some owner => exact fileName_eq (not_diverges (h.resolve_left (Option.some_ne_none owner)) _ _)

end NamingPolicy

namespace Naming

/-- No name gets a prefix: aggregates are named, or the policy does not ask for one. -/
def Unprefixed (n : Naming) : Prop :=
  n.subject = .aggregate ∨ n.policy.prefixAggregateName = false

variable {n : Naming} {owner : Option String}

/-- The owner that counts is none, or the policy does not ask for it. -/
theorem Unprefixed.owner? (h : n.Unprefixed) {o : Option String} (howner : n.owner? owner = .ok o) :
    o = none ∨ n.policy.prefixAggregateName = false := by
  refine h.imp_left fun hsubject => ?_
  unfold Naming.owner? at howner
  rw [hsubject] at howner
  exact (Except.ok.inj howner).symm

/-- Whatever is named without a prefix has its key with the suffix as its class name. -/
theorem publishedName_eq_map (h : n.Unprefixed) (name : String) (owner : Option String) :
    n.publishedName name owner =
      (n.owner? owner).map fun _ => ensureSuffix name n.policy.suffix := by
  unfold publishedName
  cases howner : n.owner? owner with
  | error e => rfl
  | ok o => exact congrArg Except.ok (NamingPolicy.publishedName_unprefixed (h.owner? howner) name)

/-- **Whatever is named without a prefix has its class name, hyphenated, as its file name**, or
    neither name is there because the owner is missing. -/
theorem fileName_eq_map (h : n.Unprefixed) (name : String) (owner : Option String) :
    n.fileName name owner =
      (n.publishedName name owner).map fun c => splitOnCapitals c "-" ++ n.policy.extension := by
  unfold fileName publishedName
  cases howner : n.owner? owner with
  | error e => rfl
  | ok o => exact congrArg Except.ok (NamingPolicy.fileName_unprefixed (h.owner? howner) name)

end Naming

end DomainGen
