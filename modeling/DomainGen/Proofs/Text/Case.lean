import DomainGen.Text.Case
import Mathlib.Data.Nat.Bitwise

/-!
# Facts about the case mappings

Which characters a case mapping gives is a fact about its tables. The tables are read as sets of
code points here, each set as the bits of one number, so that a whole table is checked at once.

In ASCII a letter has one capital and one small form, each the form of the other one, and no other
character is changed. So a text is put in lower case character by character.

The lower-case form of a text is made character by character, with one exception: a capital sigma
becomes the final form at the end of a word. So the form of a text depends on what stands before it,
and this in two ways only: whether that ends with a cased character, and whether the first letter of
the text is a sigma that would end a word.

* `upperChar_cases`, `lowerChar_cases` : a character is its own image, or all characters of the
  image come behind the slash;
* `upperChar_head` : the first character of an upper-case form is its own upper-case form;
* `capitalize_capitalize`, `capitalize_append` : **capitalising twice is capitalising once**, and it
  looks at the first character only;
* `IsAscii` : a text of ASCII characters; capitalising keeps that;
* `lower_ascii` : **the lower-case form of a text is that of its characters**;
* `toUpper_toLower` : **capitalising undoes this for every character that is no small letter**;
* `lower_capitalize_ascii` : a text and the capitalised text have one lower-case form;
* `lowerAfter_congr` : what stands before a text counts only by how it ends;
* `beginsFinal` : the text begins with a sigma that ends a word if there is one before it;
* `lowerAfter_eq_lower_iff` : **the form of a text behind another one is its own form, unless the
  other one ends with a cased character and it begins with such a sigma**;
* `suffix_lower_append_iff` : the same for the end of the lower-case form of a whole.
-/

namespace DomainGen.Text

open Case

/-! ## 1. Sets of code points -/

/-- The code points of a progression. -/
def Progression.members (p : Progression) : List Nat :=
  List.range' p.first ((p.last - p.first) / p.step + 1) p.step

theorem Progression.mem_members {p : Progression} {n : Nat} (h : p.holds n = true) :
    n ∈ p.members := by
  unfold holds at h
  simp only [Bool.and_eq_true, decide_eq_true_eq, beq_iff_eq] at h
  obtain ⟨⟨hfirst, hlast⟩, hstep⟩ := h
  refine List.mem_range'.mpr ⟨(n - p.first) / p.step, ?_, ?_⟩
  · exact Nat.lt_succ_of_le (Nat.div_le_div_right (Nat.sub_le_sub_right hlast p.first))
  · have hdiv := Nat.div_add_mod (n - p.first) p.step
    omega

/-- Some lists of numbers as the bits of one number. -/
def bitsOf (xss : List (List Nat)) : Nat :=
  xss.foldr (fun xs bits => xs.foldr (fun n bits => 2 ^ n ||| bits) 0 ||| bits) 0

theorem testBit_foldr {n : Nat} : ∀ {xs : List Nat}, n ∈ xs →
    (xs.foldr (fun n bits => 2 ^ n ||| bits) 0).testBit n = true
  | x :: xs, h => by
      rw [List.foldr_cons, Nat.testBit_or, Bool.or_eq_true]
      rcases List.mem_cons.mp h with rfl | h
      · exact Or.inl Nat.testBit_two_pow_self
      · exact Or.inr (testBit_foldr h)

theorem testBit_bitsOf {n : Nat} {xs : List Nat} (hn : n ∈ xs) : ∀ {xss : List (List Nat)},
    xs ∈ xss → (bitsOf xss).testBit n = true
  | ys :: xss, h => by
      unfold bitsOf
      rw [List.foldr_cons, Nat.testBit_or, Bool.or_eq_true]
      rcases List.mem_cons.mp h with rfl | h
      · exact Or.inl (testBit_foldr hn)
      · exact Or.inr (testBit_bitsOf hn h)

/-- Sets without a common bit have no common member. -/
theorem not_mem_of_bits {xss yss : List (List Nat)} (h : bitsOf xss &&& bitsOf yss = 0)
    {xs ys : List Nat} (hx : xs ∈ xss) (hy : ys ∈ yss) {n : Nat} (hn : n ∈ xs) : n ∉ ys := by
  intro hn'
  have hboth := congrArg (Nat.testBit · n) h
  simp only [Nat.testBit_and, testBit_bitsOf hn hx, testBit_bitsOf hn' hy, Nat.zero_testBit] at hboth
  exact absurd hboth (by decide)

/-! ## 2. Shifts -/

/-- The code points a shift sends its own to. -/
def Case.Shift.images (t : Shift) : List Nat :=
  t.source.members.map fun (n : Nat) => ((n : Int) + t.distance).toNat

/-- A code point behind the slash that is a character. -/
def isLetterCode (n : Nat) : Bool := Nat.blt 47 n && decide n.isValidChar

theorem toNat_ofNat {n : Nat} (h : isLetterCode n = true) : (Char.ofNat n).toNat = n := by
  have hvalid : n.isValidChar := of_decide_eq_true (Bool.and_eq_true_iff.mp h).2
  unfold Char.ofNat
  rw [dif_pos hvalid]
  rfl

theorem lt_of_isLetterCode {n : Nat} (h : isLetterCode n = true) : 47 < n :=
  Nat.blt_eq.mp (Bool.and_eq_true_iff.mp h).1

/-- An image is one of the images of a shift. -/
theorem image?_eq_some {ts : List Shift} {n : Nat} {d : Char}
    (h : Shift.image? ts n = some d) : ∃ t ∈ ts, ∃ k ∈ t.images, d = Char.ofNat k := by
  obtain ⟨t, ht, rfl⟩ := Option.map_eq_some_iff.mp h
  have hholds := List.find?_some ht
  exact ⟨t, List.mem_of_find?_eq_some ht, _,
    List.mem_map_of_mem (Progression.mem_members hholds), rfl⟩

/-- What no shift has is not sent anywhere. -/
theorem image?_eq_none {ts : List Shift} {n : Nat} (h : ∀ t ∈ ts, n ∉ t.source.members) :
    Shift.image? ts n = none := by
  unfold Shift.image?
  rw [Option.map_eq_none_iff, List.find?_eq_none]
  exact fun t ht hholds => h t ht (Progression.mem_members hholds)

/-! ## 3. What the tables say -/

theorem shifts_letters :
    ((upperShifts ++ lowerShifts).all fun t => t.images.all isLetterCode) = true := by
  decide +kernel

theorem isLetterCode_image {t : Shift} (ht : t ∈ upperShifts ++ lowerShifts) {k : Nat}
    (hk : k ∈ t.images) : isLetterCode k = true :=
  List.all_eq_true.mp (List.all_eq_true.mp shifts_letters t ht) k hk

theorem image?_letter {ts : List Shift} (hts : ts ⊆ upperShifts ++ lowerShifts) {n : Nat} {d : Char}
    (h : Shift.image? ts n = some d) : 47 < d.toNat := by
  obtain ⟨t, ht, k, hk, rfl⟩ := image?_eq_some h
  have hletter := isLetterCode_image (hts ht) hk
  rw [toNat_ofNat hletter]
  exact lt_of_isLetterCode hletter

theorem upperSpecials_letters :
    (upperSpecials.all fun e => !e.2.isEmpty && e.2.all isLetterCode) = true := by decide +kernel

/-- The code points with an upper-case form of their own. -/
def upperSources : List (List Nat) :=
  List.range' 97 26 :: upperSpecials.map (·.1) :: upperShifts.map (·.source.members)

/-- The code points upper-case forms outside ASCII begin with. -/
def upperHeads : List (List Nat) :=
  upperSpecials.map (·.2.headD 0) :: upperShifts.map Shift.images

/-- No upper-case form begins with a character that has another one. -/
theorem upperHeads_upper : bitsOf upperHeads &&& bitsOf upperSources = 0 := by decide +kernel

theorem case_ascii : ∀ n < 128,
    (((Char.ofNat n).toUpper = Char.ofNat n ∨ 47 < (Char.ofNat n).toUpper.toNat) ∧
      (n ∉ List.range' 97 26 → (Char.ofNat n).toUpper = Char.ofNat n) ∧
      upperChar (Char.ofNat n).toUpper = [(Char.ofNat n).toUpper]) ∧
    ((Char.ofNat n).toLower = Char.ofNat n ∨ 47 < (Char.ofNat n).toLower.toNat) := by
  decide +kernel

/-! ## 4. One character -/

/-- A form that has characters, all of them behind the slash. -/
def IsWord (s : List Char) : Prop := s ≠ [] ∧ ∀ d ∈ s, 47 < d.toNat

theorem isWord_singleton {d : Char} (h : 47 < d.toNat) : IsWord [d] :=
  ⟨List.cons_ne_nil _ _, fun _ he => List.mem_singleton.mp he ▸ h⟩

/-- **A character is its own upper-case form, or the form is a word.** -/
theorem upperChar_cases (c : Char) : upperChar c = [c] ∨ IsWord (upperChar c) := by
  unfold upperChar
  split
  · rename_i hascii
    have hc := (case_ascii c.toNat hascii).1.1
    rw [Char.ofNat_toNat] at hc
    exact hc.imp (congrArg fun d => [d]) isWord_singleton
  · split
    · rename_i n image hfind
      have hspecial := List.all_eq_true.mp upperSpecials_letters _ (List.mem_of_find?_eq_some hfind)
      obtain ⟨hne, hall⟩ := Bool.and_eq_true_iff.mp hspecial
      refine Or.inr ⟨fun he => ?_, fun d hd => ?_⟩
      · rw [List.map_eq_nil_iff.mp he] at hne
        cases hne
      · obtain ⟨k, hk, rfl⟩ := List.mem_map.mp hd
        have hletter := List.all_eq_true.mp hall k hk
        rw [toNat_ofNat hletter]
        exact lt_of_isLetterCode hletter
    · cases himage : Shift.image? upperShifts c.toNat with
      | none => exact Or.inl rfl
      | some d => exact Or.inr (isWord_singleton (image?_letter (List.subset_append_left _ _) himage))

/-- **A character is its own lower-case form, or the form is a word.** -/
theorem lowerChar_cases (c : Char) : lowerChar c = [c] ∨ IsWord (lowerChar c) := by
  unfold lowerChar
  split
  · rename_i hascii
    have hc := (case_ascii c.toNat hascii).2
    rw [Char.ofNat_toNat] at hc
    exact hc.imp (congrArg fun d => [d]) isWord_singleton
  · split
    · refine Or.inr ⟨List.cons_ne_nil _ _, List.forall_mem_cons.mpr ⟨by decide, ?_⟩⟩
      exact List.forall_mem_singleton.mpr (by decide)
    · cases himage : Shift.image? lowerShifts c.toNat with
      | none => exact Or.inl rfl
      | some d => exact Or.inr (isWord_singleton (image?_letter (List.subset_append_right _ _) himage))

/-- A character that is no source is its own upper-case form. -/
theorem upperChar_of_not_source {d : Char} (h : ∀ ns ∈ upperSources, d.toNat ∉ ns) :
    upperChar d = [d] := by
  have hascii := h _ List.mem_cons_self
  have hspecial := h _ (List.mem_cons_of_mem _ List.mem_cons_self)
  have hshift : ∀ t ∈ upperShifts, d.toNat ∉ t.source.members := fun t ht =>
    h _ (List.mem_cons_of_mem _ (List.mem_cons_of_mem _ (List.mem_map_of_mem ht)))
  unfold upperChar
  split
  · rename_i hlt
    have hd := (case_ascii d.toNat hlt).1.2.1 hascii
    rw [Char.ofNat_toNat] at hd
    rw [hd]
  · split
    · rename_i n image hfind
      have hn := List.find?_some hfind
      exact absurd (List.mem_map.mpr ⟨_, List.mem_of_find?_eq_some hfind, beq_iff_eq.mp hn⟩)
        hspecial
    · rw [image?_eq_none hshift]
      rfl

theorem upperChar_of_head {ns : List Nat} (hns : ns ∈ upperHeads) {n : Nat} (hn : n ∈ ns)
    (hletter : isLetterCode n = true) : upperChar (Char.ofNat n) = [Char.ofNat n] := by
  refine upperChar_of_not_source fun ms hms => ?_
  rw [toNat_ofNat hletter]
  exact not_mem_of_bits upperHeads_upper hns hms hn

/-- **The first character of an upper-case form is its own upper-case form.** -/
theorem upperChar_head {c d : Char} {rest : List Char} (h : upperChar c = d :: rest) :
    upperChar d = [d] := by
  unfold upperChar at h
  split at h
  · rename_i hascii
    have hc := (case_ascii c.toNat hascii).1.2.2
    rw [Char.ofNat_toNat] at hc
    cases h
    exact hc
  · rename_i hascii
    split at h
    · rename_i n image hfind
      have hmem := List.mem_of_find?_eq_some hfind
      have hspecial := List.all_eq_true.mp upperSpecials_letters _ hmem
      obtain ⟨k, ks, rfl, rfl, _⟩ := List.map_eq_cons_iff.mp h
      have hall := (Bool.and_eq_true_iff.mp hspecial).2
      refine upperChar_of_head List.mem_cons_self (List.mem_map.mpr ⟨_, hmem, rfl⟩) ?_
      exact List.all_eq_true.mp hall k List.mem_cons_self
    · rename_i hfind
      cases himage : Shift.image? upperShifts c.toNat with
      | none =>
          rw [himage] at h
          cases h
          show upperChar c = [c]
          unfold upperChar
          rw [if_neg hascii, hfind, himage]
          rfl
      | some e =>
          rw [himage] at h
          cases h
          obtain ⟨t, ht, k, hk, rfl⟩ := image?_eq_some himage
          have hletter := isLetterCode_image (List.mem_append_left _ ht) hk
          exact upperChar_of_head (List.mem_cons_of_mem _ (List.mem_map_of_mem ht)) hk hletter

/-! ## 5. Texts -/

theorem upperChar_ne_nil (c : Char) : upperChar c ≠ [] := by
  rcases upperChar_cases c with h | h
  · rw [h]
    exact List.cons_ne_nil _ _
  · exact h.1

/-- Capitalising looks at the first character only. -/
theorem capitalize_append {s : List Char} (h : s ≠ []) (t : List Char) :
    capitalize (s ++ t) = capitalize s ++ t := by
  cases s with
  | nil => exact absurd rfl h
  | cons c rest => exact (List.append_assoc _ _ _).symm

theorem capitalize_ne_nil {s : List Char} (h : s ≠ []) : capitalize s ≠ [] := by
  cases s with
  | nil => exact absurd rfl h
  | cons c rest => exact fun he => upperChar_ne_nil c (List.append_eq_nil_iff.mp he).1

/-- **Capitalising twice is capitalising once.** -/
theorem capitalize_capitalize (s : List Char) : capitalize (capitalize s) = capitalize s := by
  cases s with
  | nil => rfl
  | cons c rest =>
      obtain ⟨d, ds, h⟩ := List.exists_cons_of_ne_nil (upperChar_ne_nil c)
      show capitalize (upperChar c ++ rest) = upperChar c ++ rest
      rw [h]
      show upperChar d ++ (ds ++ rest) = d :: ds ++ rest
      rw [upperChar_head h]
      rfl

end DomainGen.Text

namespace DomainGen.Text

/-! ## 6. ASCII characters -/

/-- What the two forms of an ASCII character are, read off for all of them at once. -/
theorem forms_ascii {c : Char} (h : c.toNat < 128) :
    (c.toUpper.toNat < 128 ∧ c.toLower.toNat < 128) ∧
    (c.toUpper.isLower = false ∧ isUpper c.toLower = false) ∧
    ((c.isLower = false → c.toLower.toUpper = c) ∧ (isUpper c = false → c.toLower = c) ∧
      (isUpper c = true → c.isLower = false)) ∧
    ((c.toLower = '-' ↔ c = '-') ∧ (c.toUpper = '-' ↔ c = '-')) ∧
    c.toUpper.toLower = c.toLower := by
  rw [← Char.ofNat_toNat c]
  generalize c.toNat = n at h ⊢
  revert n
  decide +kernel

section Character

variable {c : Char} (h : c.toNat < 128)

include h

theorem toUpper_lt : c.toUpper.toNat < 128 := (forms_ascii h).1.1

theorem toLower_lt : c.toLower.toNat < 128 := (forms_ascii h).1.2

theorem isLower_toUpper : c.toUpper.isLower = false := (forms_ascii h).2.1.1

theorem isUpper_toLower : isUpper c.toLower = false := (forms_ascii h).2.1.2

/-- **A character that is no small letter is the capital of its small form.** -/
theorem toUpper_toLower (hc : c.isLower = false) : c.toLower.toUpper = c :=
  (forms_ascii h).2.2.1.1 hc

theorem toLower_of_not_upper (hc : isUpper c = false) : c.toLower = c :=
  (forms_ascii h).2.2.1.2.1 hc

theorem isLower_of_upper (hc : isUpper c = true) : c.isLower = false :=
  (forms_ascii h).2.2.1.2.2 hc

/-- Case says nothing about hyphens. -/
theorem hyphen_iff : (c.toLower = '-' ↔ c = '-') ∧ (c.toUpper = '-' ↔ c = '-') :=
  (forms_ascii h).2.2.2.1

/-- A capital has the small form of the character. -/
theorem toLower_toUpper : c.toUpper.toLower = c.toLower := (forms_ascii h).2.2.2.2

end Character

/-! ## 7. ASCII texts -/

/-- All characters are ASCII. -/
def IsAscii (s : List Char) : Prop := ∀ c ∈ s, c.toNat < 128

instance (s : List Char) : Decidable (IsAscii s) :=
  List.decidableBAll (fun c : Char => c.toNat < 128) s

theorem isAscii_cons {c : Char} {s : List Char} :
    IsAscii (c :: s) ↔ c.toNat < 128 ∧ IsAscii s := List.forall_mem_cons

theorem isAscii_append {s t : List Char} : IsAscii (s ++ t) ↔ IsAscii s ∧ IsAscii t :=
  List.forall_mem_append

/-- What holds of each ASCII character. -/
theorem of_ascii {P : Char → Prop} (h : ∀ n < 128, P (Char.ofNat n)) {c : Char} (hc : c.toNat < 128) :
    P c := by
  rw [← Char.ofNat_toNat c]
  exact h _ hc

theorem isAscii_of_le {c last : Char} (h : c.val ≤ last.val) (hlast : last.toNat < 128) :
    c.toNat < 128 :=
  Nat.lt_of_le_of_lt (UInt32.le_iff_toNat_le.mp h) hlast

theorem isAscii_of_isAlphanum {c : Char} (h : c.isAlphanum = true) : c.toNat < 128 := by
  rcases Bool.or_eq_true_iff.mp h with hletter | hdigit
  · rcases Bool.or_eq_true_iff.mp hletter with hupper | hlower
    · have hrange : 'A'.val ≤ c.val ∧ c.val ≤ 'Z'.val := of_decide_eq_true hupper
      exact isAscii_of_le hrange.2 (by decide)
    · obtain ⟨-, hlast⟩ := Bool.and_eq_true_iff.mp hlower
      have hle : c.val ≤ 'z'.val := of_decide_eq_true hlast
      exact isAscii_of_le hle (by decide)
  · obtain ⟨-, hlast⟩ := Bool.and_eq_true_iff.mp hdigit
    have hle : c.val ≤ '9'.val := of_decide_eq_true hlast
    exact isAscii_of_le hle (by decide)

/-- A capitalised ASCII text begins with the capital of its first character. -/
theorem capitalize_ascii {c : Char} (h : c.toNat < 128) (s : List Char) :
    capitalize (c :: s) = c.toUpper :: s := by
  rw [capitalize_cons, upperChar_ascii h]
  rfl

/-- The small form of a character in front of a text is capitalised to the character again. -/
theorem capitalize_toLower {c : Char} (h : c.toNat < 128) (hc : c.isLower = false)
    (s : List Char) : capitalize (c.toLower :: s) = c :: s := by
  rw [capitalize_ascii (toLower_lt h), toUpper_toLower h hc]

theorem IsAscii.capitalize {s : List Char} (h : IsAscii s) : IsAscii (capitalize s) := by
  cases s with
  | nil => exact h
  | cons c rest =>
      obtain ⟨hc, hrest⟩ := isAscii_cons.mp h
      rw [capitalize_ascii hc]
      exact isAscii_cons.mpr ⟨toUpper_lt hc, hrest⟩

/-- What stands before an ASCII text does not change its lower-case form. -/
theorem lowerAfter_ascii {s : List Char} (h : IsAscii s) (before : List Char) :
    lowerAfter before s = s.map Char.toLower := by
  induction s generalizing before with
  | nil => rfl
  | cons c rest ih =>
      obtain ⟨hc, hrest⟩ := isAscii_cons.mp h
      have hsigma : (c == 'Σ') = false := by
        refine beq_eq_false_iff_ne.mpr ?_
        rintro rfl
        exact absurd hc (by decide)
      unfold lowerAfter
      rw [hsigma, ih hrest]
      exact congrArg (· ++ rest.map Char.toLower) (lowerChar_ascii hc)

/-- **The lower-case form of an ASCII text is that of its characters.** -/
theorem lower_ascii {s : List Char} (h : IsAscii s) : lower s = s.map Char.toLower :=
  lowerAfter_ascii h []

/-- Capitalising an ASCII text does not change its lower-case form. -/
theorem lower_capitalize_ascii {s : List Char} (h : IsAscii s) : lower (capitalize s) = lower s := by
  cases s with
  | nil => rfl
  | cons c rest =>
      obtain ⟨hc, -⟩ := isAscii_cons.mp h
      rw [lower_ascii h.capitalize, lower_ascii h, capitalize_ascii hc, List.map_cons,
        List.map_cons, toLower_toUpper hc]

/-! ## 8. What stands before -/

theorem startsCased_cons_ignorable {c : Char} (h : isCaseIgnorable c = true) (s : List Char) :
    startsCased (c :: s) = startsCased s := by
  unfold startsCased
  rw [List.dropWhile_cons_of_pos h]

theorem startsCased_cons {c : Char} (h : isCaseIgnorable c = false) (s : List Char) :
    startsCased (c :: s) = isCased c := by
  unfold startsCased
  rw [List.dropWhile_cons_of_neg (Bool.eq_false_iff.mp h)]

/-- One more character counts the same behind texts that count the same. -/
theorem startsCased_cons_congr {s t : List Char} (h : startsCased s = startsCased t) (c : Char) :
    startsCased (c :: s) = startsCased (c :: t) := by
  cases hc : isCaseIgnorable c with
  | true => rw [startsCased_cons_ignorable hc, startsCased_cons_ignorable hc, h]
  | false => rw [startsCased_cons hc, startsCased_cons hc]

/-- **What stands before a text counts only by how it ends.** -/
theorem lowerAfter_congr {before before' : List Char}
    (h : startsCased before = startsCased before') (s : List Char) :
    lowerAfter before s = lowerAfter before' s := by
  induction s generalizing before before' with
  | nil => rfl
  | cons c rest ih =>
      unfold lowerAfter endsWord
      rw [ih (startsCased_cons_congr h c), h]

/-- What stands before a text does not change the length of its form. -/
theorem length_lowerAfter (before before' s : List Char) :
    (lowerAfter before s).length = (lowerAfter before' s).length := by
  induction s generalizing before before' with
  | nil => rfl
  | cons c rest ih =>
      unfold lowerAfter
      rw [List.length_append, List.length_append, ih (c :: before) (c :: before')]
      congr 1
      split <;> rfl

/-- The form of the second part of a text ends the form of the text. -/
theorem suffix_lowerAfter_append (before s t : List Char) :
    lowerAfter (s.reverse ++ before) t <:+ lowerAfter before (s ++ t) := by
  induction s generalizing before with
  | nil => exact List.suffix_refl _
  | cons c rest ih =>
      rw [List.reverse_cons, List.append_assoc, List.singleton_append, List.cons_append]
      exact (ih (c :: before)).trans (List.suffix_append _ _)

/-! ## 9. A sigma in front -/

/-- The first character that is not case-ignorable is a capital sigma, and no cased one comes after
    it. -/
def beginsFinal (s : List Char) : Bool :=
  match s.dropWhile isCaseIgnorable with
  | [] => false
  | c :: rest => c == 'Σ' && !startsCased rest

theorem isCaseIgnorable_sigma : isCaseIgnorable 'Σ' = false := by decide +kernel

theorem beginsFinal_cons_ignorable {c : Char} (h : isCaseIgnorable c = true) (s : List Char) :
    beginsFinal (c :: s) = beginsFinal s := by
  unfold beginsFinal
  rw [List.dropWhile_cons_of_pos h]

theorem beginsFinal_cons {c : Char} (h : isCaseIgnorable c = false) (s : List Char) :
    beginsFinal (c :: s) = (c == 'Σ' && !startsCased s) := by
  unfold beginsFinal
  rw [List.dropWhile_cons_of_neg (Bool.eq_false_iff.mp h)]

/-- **The form of a text behind another one is its own form**, unless the other one ends with a cased
    character and the text begins with a sigma that then ends a word. -/
theorem lowerAfter_eq_lower_iff (before s : List Char) :
    lowerAfter before s = lower s ↔ ¬ (startsCased before = true ∧ beginsFinal s = true) := by
  induction s with
  | nil => exact iff_of_true rfl fun h => Bool.noConfusion h.2
  | cons c rest ih =>
      unfold lower at ih ⊢
      unfold lowerAfter
      cases hc : isCaseIgnorable c with
      | true =>
          -- a case-ignorable character is no sigma and changes nothing for the rest
          have hsigma : (c == 'Σ') = false := by
            refine beq_eq_false_iff_ne.mpr ?_
            rintro rfl
            rw [isCaseIgnorable_sigma] at hc
            cases hc
          rw [hsigma, beginsFinal_cons_ignorable hc, ← ih,
            lowerAfter_congr (startsCased_cons_ignorable hc before) rest,
            lowerAfter_congr (startsCased_cons_ignorable hc []) rest]
          exact List.append_right_inj _
      | false =>
          -- behind any other character the rest is what it is, so the sigma alone decides
          have hrest : lowerAfter (c :: before) rest = lowerAfter [c] rest :=
            lowerAfter_congr ((startsCased_cons hc before).trans (startsCased_cons hc []).symm) rest
          rw [hrest, beginsFinal_cons hc, List.append_left_inj]
          cases hsigma : c == 'Σ' with
          | false => exact iff_of_true rfl fun h => Bool.noConfusion h.2
          | true =>
              have hnone : startsCased [] = false := rfl
              unfold endsWord
              rw [if_pos rfl, if_pos rfl, hnone]
              cases startsCased before <;> cases startsCased rest <;> decide

/-- **The form of a text ends with the form of its second part**, unless that begins with a sigma
    which the first part makes final. -/
theorem suffix_lower_append_iff (s t : List Char) :
    lower t <:+ lower (s ++ t) ↔ ¬ (startsCased s.reverse = true ∧ beginsFinal t = true) := by
  have hsuffix := suffix_lowerAfter_append [] s t
  rw [List.append_nil] at hsuffix
  rw [← lowerAfter_eq_lower_iff]
  constructor
  · intro h
    exact (List.suffix_of_suffix_length_le hsuffix h (length_lowerAfter _ _ t).le).eq_of_length
      (length_lowerAfter _ _ t)
  · intro h
    rw [← h]
    exact hsuffix

end DomainGen.Text
