import DomainGen.Proofs.Naming.ClassName
import DomainGen.Proofs.Text.Case

/-!
# Hyphens for capitals

In ASCII a hyphenated text says where the capitals of the text were: each hyphen stands before one of
them. So the text can be read off again, provided that it has no hyphens of its own and that its first
character, before which no hyphen is put, is no small letter.

* `hyphened` : what becomes of a character behind the first one; `splitOnCapitals_cons` : **a
  hyphenated text character by character**;
* `rejoined` : the pieces between hyphens, capitalised, in a row; `rejoined_splitOnCapitals` : **they
  are the text again**;
* `splitOnCapitals_inj` : different texts are hyphenated differently; `splitOnCapitals_invertible` :
  **all that a hyphenated text says, and that file names are as different as class names**.
-/

namespace DomainGen

open Text

/-! ## 1. Character by character -/

/-- A capital in lower case behind a hyphen, any other character as it is. -/
def hyphened (c : Char) : List Char := if isUpper c then ['-', c.toLower] else [c]

theorem hyphened_upper {c : Char} (h : isUpper c = true) : hyphened c = ['-', c.toLower] := if_pos h

theorem hyphened_other {c : Char} (h : isUpper c = false) : hyphened c = [c] :=
  if_neg (Bool.eq_false_iff.mp h)

/-- A segment with one character more in front. -/
theorem lower_segment {c : Char} {s : List Char} (h : IsAscii (c :: s)) :
    lower (c :: s) = c.toLower :: lower s := by
  rw [lower_ascii h, lower_ascii (isAscii_cons.mp h).2]
  rfl

theorem joinWith_segments (c : Char) (rest : List Char) (h : IsAscii (c :: rest)) :
    joinWith ['-'] ((segments (c :: rest)).map lower) = c.toLower :: rest.flatMap hyphened := by
  induction rest generalizing c with
  | nil => exact lower_segment h
  | cons d rest ih =>
      obtain ⟨hc, hrest⟩ := isAscii_cons.mp h
      obtain ⟨hd, htail⟩ := isAscii_cons.mp hrest
      have ih := ih d hrest
      obtain ⟨seg, segs, hsegs, hflatten, _⟩ := segments_cons d rest
      rw [hsegs, List.map_cons, joinWith_cons] at ih
      unfold segments
      rw [hsegs]
      dsimp only
      cases hupper : isUpper d with
      | true =>
          have hone : lower [c] = [c.toLower] := lower_segment (isAscii_cons.mpr ⟨hc, fun _ hx =>
            absurd hx List.not_mem_nil⟩)
          rw [if_pos rfl, List.map_cons, List.map_cons, joinWith_cons, List.flatMap_cons,
            List.append_assoc, ih, hone, List.flatMap_cons, hyphened_upper hupper]
          rfl
      | false =>
          have hseg : IsAscii (c :: d :: seg) := by
            refine isAscii_cons.mpr ⟨hc, isAscii_cons.mpr ⟨hd, ?_⟩⟩
            rw [← hflatten] at htail
            exact (isAscii_append.mp htail).1
          rw [if_neg Bool.false_ne_true, List.map_cons, joinWith_cons, lower_segment hseg,
            List.cons_append, ih, List.flatMap_cons, hyphened_other hupper,
            toLower_of_not_upper hd hupper]
          rfl

/-- **A hyphenated text character by character**: the first one in lower case, and a hyphen before
    each capital behind it. -/
theorem splitOnCapitals_cons {s : String} {c : Char} {rest : List Char}
    (hs : s.toList = c :: rest) (h : IsAscii s.toList) :
    (splitOnCapitals s "-").toList = c.toLower :: rest.flatMap hyphened := by
  unfold splitOnCapitals
  rw [String.toList_ofList, hs]
  exact joinWith_segments c rest (hs ▸ h)

/-! ## 2. Reading the text off -/

/-- An ASCII text without hyphens. -/
structure Unhyphened (s : List Char) : Prop where
  ascii : IsAscii s
  hyphenless : '-' ∉ s

instance (s : List Char) : Decidable (Unhyphened s) :=
  decidable_of_iff (IsAscii s ∧ '-' ∉ s) ⟨fun h => ⟨h.1, h.2⟩, fun h => ⟨h.ascii, h.hyphenless⟩⟩

namespace Unhyphened

variable {c : Char} {s t : List Char}

theorem cons_iff : Unhyphened (c :: s) ↔ c.toNat < 128 ∧ c ≠ '-' ∧ Unhyphened s := by
  constructor
  · rintro ⟨hascii, hhyphen⟩
    obtain ⟨hc, hs⟩ := isAscii_cons.mp hascii
    rw [List.mem_cons, not_or] at hhyphen
    exact ⟨hc, Ne.symm hhyphen.1, hs, hhyphen.2⟩
  · rintro ⟨hc, hne, hs⟩
    refine ⟨isAscii_cons.mpr ⟨hc, hs.ascii⟩, ?_⟩
    rw [List.mem_cons, not_or]
    exact ⟨Ne.symm hne, hs.hyphenless⟩

theorem append (hs : Unhyphened s) (ht : Unhyphened t) : Unhyphened (s ++ t) := by
  refine ⟨isAscii_append.mpr ⟨hs.ascii, ht.ascii⟩, ?_⟩
  rw [List.mem_append, not_or]
  exact ⟨hs.hyphenless, ht.hyphenless⟩

theorem capitalize (h : Unhyphened s) : Unhyphened (capitalize s) := by
  cases s with
  | nil => exact h
  | cons c rest =>
      obtain ⟨hc, hne, hrest⟩ := cons_iff.mp h
      rw [capitalize_ascii hc]
      exact cons_iff.mpr ⟨toUpper_lt hc, mt (hyphen_iff hc).2.mp hne, hrest⟩

end Unhyphened

/-- The pieces of a text between hyphens, each with its first character in upper case, in a row. -/
def rejoined (s : List Char) : List Char := ((splitAt '-' s).map capitalize).flatten

/-- A small form extends the piece it stands before. -/
theorem splitAt_toLower {c : Char} (hc : c.toNat < 128) (hne : c ≠ '-') {t piece : List Char}
    {pieces : List (List Char)} (h : splitAt '-' t = piece :: pieces) :
    splitAt '-' (c.toLower :: t) = (c.toLower :: piece) :: pieces := by
  have hsmall : '-' ∉ [c.toLower] := fun hm =>
    hne ((hyphen_iff hc).1.mp (List.mem_singleton.mp hm).symm)
  exact splitAt_append h hsmall

/-- What stands behind the first character: the pieces but for the first one begin with the
    capitals. -/
theorem splitAt_hyphened {rest : List Char} (h : Unhyphened rest) :
    ∃ piece pieces, splitAt '-' (rest.flatMap hyphened) = piece :: pieces ∧
      piece ++ (pieces.map capitalize).flatten = rest := by
  induction rest with
  | nil => exact ⟨[], [], rfl, rfl⟩
  | cons d rest ih =>
      obtain ⟨hd, hne, hrest⟩ := Unhyphened.cons_iff.mp h
      obtain ⟨piece, pieces, hsplit, hjoin⟩ := ih hrest
      have hmore := splitAt_toLower hd hne hsplit
      rw [List.flatMap_cons]
      cases hupper : isUpper d with
      | true =>
          refine ⟨[], (d.toLower :: piece) :: pieces, ?_, ?_⟩
          · rw [hyphened_upper hupper, ← hmore]
            exact splitAt_sep _
          · rw [List.map_cons, capitalize_toLower hd (isLower_of_upper hd hupper),
              List.flatten_cons, ← hjoin]
            rfl
      | false =>
          rw [toLower_of_not_upper hd hupper] at hmore
          rw [hyphened_other hupper]
          exact ⟨d :: piece, pieces, hmore, congrArg (d :: ·) hjoin⟩

/-- An ASCII text without hyphens that does not begin with a small letter. -/
structure Splittable (s : List Char) : Prop extends Unhyphened s where
  head : ∀ c ∈ s.head?, c.isLower = false

theorem splittable_nil : Splittable [] := ⟨⟨nofun, List.not_mem_nil⟩, nofun⟩

theorem splittable_cons {c : Char} {s : List Char} :
    Splittable (c :: s) ↔ Unhyphened (c :: s) ∧ c.isLower = false := by
  refine ⟨fun h => ⟨h.toUnhyphened, h.head c rfl⟩, fun h => ⟨h.1, fun d hd => ?_⟩⟩
  rw [← Option.some.inj hd]
  exact h.2

instance : (s : List Char) → Decidable (Splittable s)
  | [] => isTrue splittable_nil
  | c :: s => decidable_of_iff (Unhyphened (c :: s) ∧ c.isLower = false) splittable_cons.symm

/-- **The pieces of a hyphenated text, capitalised and in a row, are the text.** -/
theorem rejoined_splitOnCapitals {s : String} (h : Splittable s.toList) :
    rejoined (splitOnCapitals s "-").toList = s.toList := by
  cases hs : s.toList with
  | nil =>
      obtain rfl := String.toList_eq_nil_iff.mp hs
      rfl
  | cons c rest =>
      rw [splitOnCapitals_cons hs h.ascii]
      rw [hs] at h
      obtain ⟨hc, hne, hrest⟩ := Unhyphened.cons_iff.mp h.toUnhyphened
      obtain ⟨piece, pieces, hsplit, hjoin⟩ := splitAt_hyphened hrest
      unfold rejoined
      rw [splitAt_toLower hc hne hsplit, List.map_cons, capitalize_toLower hc (h.head c rfl),
        List.flatten_cons, ← hjoin]
      rfl

/-- **Different texts are hyphenated differently.** -/
theorem splitOnCapitals_inj {s t : String} (hs : Splittable s.toList) (ht : Splittable t.toList) :
    splitOnCapitals s "-" = splitOnCapitals t "-" ↔ s = t := by
  refine ⟨fun h => String.toList_injective ?_, fun h => congrArg (splitOnCapitals · "-") h⟩
  rw [← rejoined_splitOnCapitals hs, h, rejoined_splitOnCapitals ht]

/-! ## 3. Capitals and hyphens -/

/-- No character is a capital behind a hyphen. -/
theorem isUpper_hyphened {c d : Char} (hc : c.toNat < 128) (hd : d ∈ hyphened c) :
    isUpper d = false := by
  cases hupper : isUpper c with
  | true =>
      rw [hyphened_upper hupper] at hd
      rcases List.mem_cons.mp hd with rfl | hd
      · decide
      · rw [List.mem_singleton.mp hd]
        exact isUpper_toLower hc
  | false =>
      rw [hyphened_other hupper] at hd
      rw [List.mem_singleton.mp hd]
      exact hupper

/-- **A hyphenated text has no capitals.** -/
theorem isUpper_splitOnCapitals {s : String} (h : IsAscii s.toList) :
    ∀ c ∈ (splitOnCapitals s "-").toList, isUpper c = false := by
  intro d hd
  cases hs : s.toList with
  | nil =>
      obtain rfl := String.toList_eq_nil_iff.mp hs
      exact absurd hd List.not_mem_nil
  | cons c rest =>
      rw [splitOnCapitals_cons hs h] at hd
      rw [hs] at h
      obtain ⟨hc, hrest⟩ := isAscii_cons.mp h
      rcases List.mem_cons.mp hd with rfl | hd
      · exact isUpper_toLower hc
      · obtain ⟨x, hx, hd⟩ := List.mem_flatMap.mp hd
        exact isUpper_hyphened (hrest x hx) hd

theorem count_hyphened {rest : List Char} (h : Unhyphened rest) :
    (rest.flatMap hyphened).count '-' = rest.countP isUpper := by
  induction rest with
  | nil => rfl
  | cons d rest ih =>
      obtain ⟨hd, hne, hrest⟩ := Unhyphened.cons_iff.mp h
      rw [List.flatMap_cons, List.count_append, ih hrest, List.countP_cons]
      cases hupper : isUpper d with
      | true =>
          have hsmall : d.toLower ≠ '-' := mt (hyphen_iff hd).1.mp hne
          rw [hyphened_upper hupper, List.count_cons_self, List.count_singleton,
            beq_eq_false_iff_ne.mpr hsmall]
          exact Nat.add_comm _ _
      | false =>
          rw [hyphened_other hupper, List.count_singleton, beq_eq_false_iff_ne.mpr hne]
          exact Nat.add_comm _ _

/-- **A hyphenated text has a hyphen for every capital behind the first character.** -/
theorem count_splitOnCapitals {s : String} (h : Unhyphened s.toList) :
    (splitOnCapitals s "-").toList.count '-' = s.toList.tail.countP isUpper := by
  cases hs : s.toList with
  | nil =>
      obtain rfl := String.toList_eq_nil_iff.mp hs
      rfl
  | cons c rest =>
      rw [splitOnCapitals_cons hs h.ascii]
      rw [hs] at h
      obtain ⟨hc, hne, hrest⟩ := Unhyphened.cons_iff.mp h
      rw [List.count_cons_of_ne (mt (hyphen_iff hc).1.mp hne)]
      exact count_hyphened hrest

/-! ## 4. Main result -/

/-- A name with a suffix begins with a capital if it begins with a letter. -/
theorem splittable_ensureSuffix {name suffix : String} (hne : name ≠ "")
    (hname : Unhyphened name.toList) (hsuffix : Unhyphened suffix.toList) :
    Splittable (ensureSuffix name suffix).toList := by
  have hmissing : Unhyphened (missingSuffix name suffix).toList := by
    unfold missingSuffix
    split
    · exact splittable_nil.toUnhyphened
    · exact hsuffix
  have hwhole := hname.capitalize.append hmissing
  obtain ⟨c, rest, hc⟩ := List.exists_cons_of_ne_nil (mt String.toList_eq_nil_iff.mp hne)
  rw [hc] at hname hwhole
  obtain ⟨hlt, _⟩ := Unhyphened.cons_iff.mp hname
  rw [capitalize_ascii hlt, List.cons_append] at hwhole
  rw [ensureSuffix_eq, String.toList_append, toList_capitalizeFirst, hc, capitalize_ascii hlt]
  exact splittable_cons.mpr ⟨hwhole, isLower_toUpper hlt⟩

/-- Without a prefix, keys that begin with a letter and have different class names have different
    file names. -/
theorem fileName_inj {n : Naming} (h : n.Unprefixed) (hsuffix : Unhyphened n.policy.suffix.toList)
    {a b : String} (ha : a ≠ "") (hb : b ≠ "") (ha' : Unhyphened a.toList)
    (hb' : Unhyphened b.toList) (o o' : Option String) :
    n.fileName a o = n.fileName b o' ↔ n.publishedName a o = n.publishedName b o' := by
  have hsplit := splitOnCapitals_inj (splittable_ensureSuffix ha ha' hsuffix)
    (splittable_ensureSuffix hb hb' hsuffix)
  rw [Naming.fileName_eq_map h, Naming.fileName_eq_map h, Naming.publishedName_eq_map h,
    Naming.publishedName_eq_map h]
  cases n.owner? o with
  | error e =>
      cases n.owner? o' with
      | error e' => exact Iff.rfl
      | ok _ => exact iff_of_false nofun nofun
  | ok _ =>
      cases n.owner? o' with
      | error e' => exact iff_of_false nofun nofun
      | ok _ =>
          dsimp only [Except.map]
          rw [Except.ok.injEq, Except.ok.injEq, String.append_left_inj, hsplit]

/-- **A hyphenated text can be read backwards.** For an ASCII text without hyphens that does not begin
    with a small letter, its pieces, capitalised and in a row, are the text again; it has no capitals
    and a hyphen for every capital of the text behind the first character. So different texts are
    hyphenated differently, and where names get no prefix and the suffix is such a text, two keys have
    one file name exactly if they have one class name. -/
theorem splitOnCapitals_invertible :
    (∀ s : String, Splittable s.toList →
      rejoined (splitOnCapitals s "-").toList = s.toList ∧
      (∀ c ∈ (splitOnCapitals s "-").toList, isUpper c = false) ∧
      (splitOnCapitals s "-").toList.count '-' = s.toList.tail.countP isUpper) ∧
    (∀ s t : String, Splittable s.toList → Splittable t.toList →
      (splitOnCapitals s "-" = splitOnCapitals t "-" ↔ s = t)) ∧
    ∀ n : Naming, n.Unprefixed → Unhyphened n.policy.suffix.toList →
      ∀ a b : String, a ≠ "" → b ≠ "" → Unhyphened a.toList → Unhyphened b.toList →
        ∀ o o' : Option String,
          n.fileName a o = n.fileName b o' ↔ n.publishedName a o = n.publishedName b o' :=
  ⟨fun _ h => ⟨rejoined_splitOnCapitals h, isUpper_splitOnCapitals h.ascii,
      count_splitOnCapitals h.toUnhyphened⟩,
    fun _ _ => splitOnCapitals_inj,
    fun _ hn hsuffix _ _ ha hb ha' hb' => fileName_inj hn hsuffix ha hb ha' hb'⟩

/-- Events without a prefix. -/
def plainEvents : Naming := ⟨.entity .event, ⟨".js", "events", "Event", false⟩⟩

/-- A text with a run of capitals and a digit, one that differs from it in the case of a letter, and
    three keys of events, two of which have one class name. -/
theorem splitOnCapitals_invertible_capitals :
    splitOnCapitals "ABC2xEvent" "-" = "a-b-c2x-event" ∧
    rejoined "a-b-c2x-event".toList = "ABC2xEvent".toList ∧
    "a-b-c2x-event".toList.count '-' = 3 ∧
    splitOnCapitals "ABC2xEvent" "-" ≠ splitOnCapitals "AbC2xEvent" "-" ∧
    plainEvents.fileName "orderPlaced" (some "order") =
      plainEvents.fileName "OrderPlacedEvent" (some "shop") ∧
    plainEvents.fileName "orderPlaced" (some "order") ≠
      plainEvents.fileName "orderplaced" (some "order") := by
  obtain ⟨hread, hinj, hnames⟩ := splitOnCapitals_invertible
  have hsplit : splitOnCapitals "ABC2xEvent" "-" = "a-b-c2x-event" := by decide +kernel
  have hruns : Splittable "ABC2xEvent".toList := by decide +kernel
  have hother : Splittable "AbC2xEvent".toList := by decide +kernel
  have hevent : Unhyphened plainEvents.policy.suffix.toList := by decide +kernel
  have hplaced : Unhyphened "orderPlaced".toList := by decide +kernel
  have hsuffixed : Unhyphened "OrderPlacedEvent".toList := by decide +kernel
  have hsmall : Unhyphened "orderplaced".toList := by decide +kernel
  obtain ⟨hback, _, hcount⟩ := hread _ hruns
  rw [hsplit] at hback hcount
  have hevents := hnames plainEvents (Or.inr rfl) hevent
  refine ⟨hsplit, hback, hcount.trans (by decide +kernel),
    (hinj _ _ hruns hother).not.mpr (by decide), ?_, ?_⟩
  · exact (hevents _ _ (by decide) (by decide) hplaced hsuffixed _ _).mpr (by decide +kernel)
  · exact (hevents _ _ (by decide) (by decide) hplaced hsmall _ _).not.mpr (by decide +kernel)

end DomainGen
