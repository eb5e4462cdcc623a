import DomainGen.Number.Reading
import DomainGen.Proofs.Text.Case

/-!
# Numbers in plain digits

What the general reading of numbers makes of digits, letters and points without white space around
them.

* `CountsIn` : a character that is a digit in a base and nothing else;
* `readInteger?_eq_none` : **of such characters only none at all, and too many decimal ones, are no
  integer**;
* `readDecimal?_digits`, `readDecimal?_point` : **digits, with a point before, among or after them and
  an exponent at the end, are a decimal**.
-/

namespace DomainGen

open Text

/-! ## 1. Characters -/

theorem isAscii_of_isDigit {c : Char} (h : c.isDigit = true) : c.toNat < 128 :=
  isAscii_of_isAlphanum (Bool.or_eq_true_iff.mpr (.inr h))

/-- A character that is a digit in a base: it is no sign, no white space and no mark of the base. -/
def CountsIn (base : Nat) (c : Char) : Prop :=
  (baseDigit? base c).isSome = true ∧ c ≠ '-' ∧ c ≠ '+' ∧ isMargin c = false ∧
    some c.toLower ≠ baseLetter base

instance (base : Nat) (c : Char) : Decidable (CountsIn base c) := by
  unfold CountsIn
  infer_instance

theorem countsIn_ten {c : Char} (h : c.isDigit = true) : CountsIn 10 c := by
  have hall : ∀ n < 128, (Char.ofNat n).isDigit = true → CountsIn 10 (Char.ofNat n) := by
    decide +kernel
  exact of_ascii (P := fun c => c.isDigit = true → CountsIn 10 c) hall (isAscii_of_isDigit h) h

/-- A digit is one in the general sense. -/
theorem isSome_digitValue? {c : Char} (h : c.isDigit = true) : (digitValue? c).isSome = true := by
  have hall : ∀ n < 128, (Char.ofNat n).isDigit = true →
      (digitValue? (Char.ofNat n)).isSome = true := by
    decide +kernel
  exact of_ascii (P := fun c => c.isDigit = true → (digitValue? c).isSome = true) hall
    (isAscii_of_isDigit h) h

/-! ## 2. Integers -/

variable {s : List Char}

theorem trimMargin_eq_self (h : ∀ c ∈ s, isMargin c = false) : trimMargin s = s := by
  have hdrop {t : List Char} (ht : ∀ c ∈ t, isMargin c = false) : t.dropWhile isMargin = t := by
    cases t with
    | nil => rfl
    | cons c rest => exact List.dropWhile_cons_of_neg (by simp [ht c List.mem_cons_self])
  unfold trimMargin
  rw [hdrop h, hdrop fun c hc => h c (List.mem_reverse.mp hc), List.reverse_reverse]

theorem splitSign_eq_self (h : ∀ c ∈ s.head?, c ≠ '-' ∧ c ≠ '+') : splitSign s = (false, s) := by
  unfold splitSign
  split
  · exact absurd rfl (h _ rfl).1
  · exact absurd rfl (h _ rfl).2
  · rfl

theorem readDigits?_isSome {base : Nat} : ∀ {s : List Char} (value : Nat),
    (∀ c ∈ s, CountsIn base c) → (readDigits? base value s).isSome = true
  | [], _, _ => rfl
  | c :: rest, value, h => by
      obtain ⟨hc, hrest⟩ := List.forall_mem_cons.mp h
      obtain ⟨d, hd⟩ := Option.isSome_iff_exists.mp hc.1
      unfold readDigits?
      rw [hd]
      exact readDigits?_isSome _ hrest

theorem dropBaseMark_eq_self {base : Nat} (h : ∀ c ∈ s, CountsIn base c) : dropBaseMark base s = s := by
  unfold dropBaseMark
  split
  · rename_i c rest
    have hc := (h c (List.mem_cons_of_mem _ List.mem_cons_self)).2.2.2.2
    rw [if_neg (by simpa using hc)]
  · rfl

/-- **Digits of a base are no integer only if there are none, or too many decimal ones.** -/
theorem readInteger?_eq_none {base : Nat} (h : ∀ c ∈ s, CountsIn base c) :
    readInteger? base s = none ↔ s = [] ∨ base = 10 ∧ maxIntegerDigits < s.length := by
  obtain ⟨n, hn⟩ := Option.isSome_iff_exists.mp (readDigits?_isSome 0 h)
  unfold readInteger?
  rw [trimMargin_eq_self fun c hc => (h c hc).2.2.2.1,
    splitSign_eq_self fun c hc => ⟨(h c (List.mem_of_mem_head? hc)).2.1, (h c (List.mem_of_mem_head? hc)).2.2.1⟩]
  dsimp only
  rw [dropBaseMark_eq_self h, hn]
  split
  · rename_i hnone
    simpa using hnone
  · rename_i hsome
    simpa using hsome

/-! ## 3. Decimals -/

theorem takeDigits_append (rest : List Char) (hrest : ∀ c ∈ rest.head?, digitValue? c = none) :
    ∀ {ds : List Char}, (∀ c ∈ ds, c.isDigit = true) →
      ∃ vs, takeDigits (ds ++ rest) = (vs, rest) ∧ vs.isEmpty = ds.isEmpty
  | [], _ => by
      refine ⟨[], ?_, rfl⟩
      cases rest with
      | nil => rfl
      | cons c rest => rw [List.nil_append, takeDigits, hrest c rfl]
  | d :: ds, h => by
      obtain ⟨hd, hds⟩ := List.forall_mem_cons.mp h
      obtain ⟨v, hv⟩ := Option.isSome_iff_exists.mp (isSome_digitValue? hd)
      obtain ⟨vs, hvs, _⟩ := takeDigits_append rest hrest hds
      refine ⟨v :: vs, ?_, rfl⟩
      rw [List.cons_append, takeDigits, hv]
      dsimp only
      rw [hvs]

/-- A text that begins with a digit or a point has no sign. -/
theorem readDecimal?_eq (hmargin : ∀ c ∈ s, isMargin c = false)
    (hhead : ∀ c ∈ s.head?, c.isDigit = true ∨ c = '.') :
    readDecimal? s = readUnsigned? false s := by
  unfold readDecimal?
  rw [trimMargin_eq_self hmargin, splitSign_eq_self]
  intro c hc
  rcases hhead c hc with hdigit | rfl
  · exact ⟨(countsIn_ten hdigit).2.1, (countsIn_ten hdigit).2.2.1⟩
  · decide

section Decimals

variable {whole fraction exponent : List Char} (hwhole : ∀ c ∈ whole, c.isDigit = true)
include hwhole

theorem readDecimal?_digits (hne : whole.isEmpty = false) : (readDecimal? whole).isSome = true := by
  have hmargin : ∀ c ∈ whole, isMargin c = false := fun c hc => (countsIn_ten (hwhole c hc)).2.2.2.1
  have hhead : ∀ c ∈ whole.head?, c.isDigit = true ∨ c = '.' :=
    fun c hc => .inl (hwhole c (List.mem_of_mem_head? hc))
  obtain ⟨vs, hvs, hempty⟩ := takeDigits_append [] (fun _ hc => nomatch hc) hwhole
  rw [List.append_nil] at hvs
  rw [readDecimal?_eq hmargin hhead]
  unfold readUnsigned?
  split
  · rfl
  · rfl
  · rfl
  · rw [hvs]
    dsimp only
    rw [hempty, hne]
    rfl

/-- **Digits around a point, with an exponent or without, are a decimal.** -/
theorem readDecimal?_point (hfraction : ∀ c ∈ fraction, c.isDigit = true)
    (hne : (whole.isEmpty && fraction.isEmpty) = false) (hread : (readExponent? exponent).isSome = true)
    (hexponent : ∀ c ∈ exponent.head?, digitValue? c = none)
    (hmargin : ∀ c ∈ exponent, isMargin c = false) :
    (readDecimal? (whole ++ '.' :: (fraction ++ exponent))).isSome = true := by
  have hhead : ∀ c ∈ (whole ++ '.' :: (fraction ++ exponent)).head?, c.isDigit = true ∨ c = '.' := by
    intro c hc
    cases whole with
    | nil => exact .inr (Option.some.inj hc).symm
    | cons d _ => exact .inl (Option.some.inj hc ▸ hwhole d List.mem_cons_self)
  obtain ⟨vs, hvs, hwempty⟩ := takeDigits_append ('.' :: (fraction ++ exponent))
    (fun c hc => Option.some.inj hc ▸ by decide) hwhole
  obtain ⟨us, hus, hfempty⟩ := takeDigits_append exponent hexponent hfraction
  rw [readDecimal?_eq ?_ hhead]
  · unfold readUnsigned?
    split
    · rfl
    · rfl
    · rfl
    · rw [← hwempty, ← hfempty] at hne
      simp only [hvs, hus, hne, Option.isSome_map, Bool.false_eq_true, if_false]
      exact hread
  · rw [List.forall_mem_append, List.forall_mem_cons, List.forall_mem_append]
    exact ⟨fun c hc => (countsIn_ten (hwhole c hc)).2.2.2.1, by decide,
      fun c hc => (countsIn_ten (hfraction c hc)).2.2.2.1, hmargin⟩

end Decimals

end DomainGen
