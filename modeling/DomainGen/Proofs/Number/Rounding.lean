import DomainGen.Number.Binary64
import Mathlib.Data.Rat.Cast.Order
import Mathlib.Tactic.FieldSimp
import Mathlib.Tactic.Linarith
import Mathlib.Tactic.Ring

/-!
# Rounding to the nearest number

A finite number is a sign and a magnitude, and the magnitude is a rational number. In the form in
which rounding leaves them, numbers with one magnitude are one number, up to the sign of zero.

Rounding looks at a quotient only: numerators and denominators with one quotient round to one number.
And whatever is less than half a step away from a number rounds to it, where the step below a power of
two is half that above.

* `Binary64.magnitude` : the magnitude; `magnitude_eq_ratio` : as a quotient of natural numbers;
* `Binary64.Fits` : **the form of rounded numbers**; `Fits.ext` : one form for each magnitude;
* `Binary64.isFitting` : `Fits` for every kind of number;
* `Binary64.Spans` : the exponent at which a value is rounded; `spans_fittingExponent` : rounding
  finds it, and `Spans.unique` : there is no other;
* `round_congr` : **rounding looks at the quotient only**;
* `round_of_near` : **what is near a number rounds to it**.
-/

namespace DomainGen

namespace Binary64

/-! ## 1. Magnitudes -/

/-- The number `m · 2 ^ e`. -/
def magnitude (m : Nat) (e : Int) : ℚ := m * (2 : ℚ) ^ e

theorem two_zpow_pos (e : Int) : (0 : ℚ) < (2 : ℚ) ^ e := zpow_pos two_pos e

theorem magnitude_nonneg (m : Nat) (e : Int) : 0 ≤ magnitude m e :=
  mul_nonneg (Nat.cast_nonneg m) (two_zpow_pos e).le

theorem magnitude_eq_zero {m : Nat} {e : Int} : magnitude m e = 0 ↔ m = 0 := by
  unfold magnitude
  rw [mul_eq_zero, or_iff_left (two_zpow_pos e).ne', Nat.cast_eq_zero]

theorem ratio_den_pos (m : Nat) (e : Int) : 0 < (ratio m e).2 := by
  cases e with
  | ofNat k => exact Nat.one_pos
  | negSucc k => exact Nat.pow_pos (by decide)

/-- **The magnitude as a quotient of natural numbers.** -/
theorem magnitude_eq_ratio (m : Nat) (e : Int) :
    magnitude m e = ((ratio m e).1 : ℚ) / ((ratio m e).2 : ℚ) := by
  unfold magnitude ratio
  cases e with
  | ofNat k =>
      simp only [Int.ofNat_eq_natCast, zpow_natCast, Nat.pow_eq, Nat.cast_mul, Nat.cast_pow,
        Nat.cast_ofNat, Nat.cast_one, div_one]
  | negSucc k =>
      simp only [zpow_negSucc, Nat.pow_eq, Nat.cast_pow, Nat.cast_ofNat]
      rw [div_eq_mul_inv]

/-! ## 2. The form of rounded numbers -/

/-- Fifty-three bits, all of them in use unless the exponent is the smallest one. -/
structure Fits (m : Nat) (e : Int) : Prop where
  below : m < 2 ^ 53
  full : 2 ^ 52 ≤ m ∨ e = minExponent
  least : minExponent ≤ e
  greatest : e ≤ maxExponent

/-- Of two numbers of one magnitude neither has the smaller exponent. -/
theorem Fits.le_of_magnitude_eq {m n : Nat} {e f : Int} (hm : Fits m e) (hn : Fits n f)
    (h : magnitude m e = magnitude n f) : f ≤ e := by
  by_contra hlt
  have hlt : e < f := not_le.mp hlt
  have hfull : 2 ^ 52 ≤ n := hn.full.resolve_right fun hf => by
    have := hm.least
    omega
  -- the larger exponent leaves a bit too many on the other side
  obtain ⟨d, hd⟩ : ∃ d : Nat, f = e + 1 + d := ⟨(f - e - 1).toNat, by omega⟩
  have hscaled : (m : ℚ) = n * 2 * 2 ^ d := by
    unfold magnitude at h
    rw [hd, zpow_add₀ (by norm_num), zpow_add₀ (by norm_num), zpow_one, zpow_natCast] at h
    have hpos := (two_zpow_pos e).ne'
    field_simp at h
    linarith
  have hnat : m = n * 2 * 2 ^ d := by exact_mod_cast hscaled
  have hone : 1 ≤ 2 ^ d := Nat.one_le_two_pow
  have hlarge : n * 2 ≤ m := by
    rw [hnat]
    exact Nat.le_mul_of_pos_right _ hone
  have := hm.below
  omega

/-- **Each magnitude has one form.** -/
theorem Fits.ext {m n : Nat} {e f : Int} (hm : Fits m e) (hn : Fits n f)
    (h : magnitude m e = magnitude n f) : m = n ∧ e = f := by
  have he : e = f := le_antisymm (hn.le_of_magnitude_eq hm h.symm) (hm.le_of_magnitude_eq hn h)
  refine ⟨?_, he⟩
  subst he
  unfold magnitude at h
  exact_mod_cast mul_right_cancel₀ (two_zpow_pos e).ne' h

/-- Is the number in the form of rounded numbers, or one of the special values? An occurrence of
    not-a-number has a tag of its own. -/
def isFitting : Binary64 → Bool
  | .nan tag => tag != 0
  | .infinity _ => true
  | .finite _ m e => m < 2 ^ 53 && (2 ^ 52 ≤ m || e == minExponent) && minExponent ≤ e
      && e ≤ maxExponent

theorem isFitting_finite {s : Bool} {m : Nat} {e : Int} :
    (finite s m e).isFitting = true ↔ Fits m e := by
  simp only [isFitting, Bool.and_eq_true, Bool.or_eq_true, decide_eq_true_eq, beq_iff_eq]
  constructor
  · rintro ⟨⟨⟨hbelow, hfull⟩, hleast⟩, hgreatest⟩
    exact ⟨hbelow, hfull, hleast, hgreatest⟩
  · rintro ⟨hbelow, hfull, hleast, hgreatest⟩
    exact ⟨⟨⟨hbelow, hfull⟩, hleast⟩, hgreatest⟩

end Binary64

namespace Binary64

/-! ## 3. Quotients -/

theorem roundQuotient_mul {k : Nat} (hk : 0 < k) (n d : Nat) :
    roundQuotient (k * n) (k * d) = roundQuotient n d := by
  have hlt : ∀ a b : Nat, k * a < k * b ↔ a < b := fun a b => Nat.mul_lt_mul_left hk
  unfold roundQuotient
  dsimp only
  rw [Nat.mul_div_mul_left n d hk, Nat.mul_mod_mul_left, Nat.mul_left_comm 2 k]
  simp only [hlt]

/-- A quotient less than a half away from a natural number rounds to it. -/
theorem roundQuotient_eq {n d m : Nat} (hlow : 2 * (m * d) < 2 * n + d)
    (hhigh : 2 * n < 2 * (m * d) + d) : roundQuotient n d = m := by
  have hsplit := Nat.div_add_mod' n d
  have hrest : n % d < d := Nat.mod_lt n (by omega)
  have hle : ∀ a b : Nat, a * d < b * d + d → a ≤ b := by
    intro a b h
    rw [← Nat.succ_mul] at h
    exact Nat.lt_succ_iff.mp (Nat.lt_of_mul_lt_mul_right h)
  unfold roundQuotient
  dsimp only
  by_cases hsmall : 2 * (n % d) < d
  · rw [if_pos hsmall]
    exact Nat.le_antisymm (hle _ _ (by omega)) (hle _ _ (by omega))
  · have hnext : (n / d + 1) * d = n / d * d + d := Nat.succ_mul _ _
    have hlarge : d < 2 * (n % d) := by
      by_contra hnot
      -- halfway between two natural numbers no third one is near
      have hhalf : 2 * (n % d) = d := by omega
      have hup : m ≤ n / d := hle _ _ (by omega)
      have := Nat.mul_le_mul_right d hup
      omega
    rw [if_neg hsmall, if_pos hlarge]
    exact Nat.le_antisymm (hle _ _ (by omega)) (hle _ _ (by omega))

theorem scale_den_pos {den : Nat} (hden : 0 < den) (num : Nat) (e : Int) :
    0 < (scale num den e).2 := by
  cases e with
  | ofNat k => exact Nat.mul_pos hden (Nat.pow_pos two_pos)
  | negSucc k => exact hden

/-- Scaling divides by a power of two. -/
theorem scale_quotient (num den : Nat) (e : Int) :
    ((scale num den e).1 : ℚ) / ((scale num den e).2 : ℚ) = (num : ℚ) / den / (2 : ℚ) ^ e := by
  cases e with
  | ofNat k =>
      simp only [scale, Int.ofNat_eq_natCast, zpow_natCast, Nat.pow_eq, Nat.cast_mul, Nat.cast_pow,
        Nat.cast_ofNat, div_div]
  | negSucc k =>
      simp only [scale, zpow_negSucc, Nat.pow_eq, Nat.cast_mul, Nat.cast_pow, Nat.cast_ofNat,
        div_inv_eq_mul]
      ring

theorem scale_mul (k num den : Nat) (e : Int) :
    scale (k * num) (k * den) e = (k * (scale num den e).1, k * (scale num den e).2) := by
  cases e with
  | ofNat j => exact Prod.ext rfl (Nat.mul_assoc _ _ _)
  | negSucc j => exact Prod.ext (Nat.mul_assoc _ _ _) rfl

/-! ## 4. Exponents -/

/-- At the exponent the value has at most fifty-three bits before the point, and exactly so many
    unless the exponent is the smallest one. -/
structure Spans (y : ℚ) (e : Int) : Prop where
  least : minExponent ≤ e
  below : y < 2 ^ 53 * (2 : ℚ) ^ e
  full : 2 ^ 52 * (2 : ℚ) ^ e ≤ y ∨ e = minExponent

theorem Spans.le {y : ℚ} {e f : Int} (he : Spans y e) (hf : Spans y f) : f ≤ e := by
  by_contra hlt
  have hfull := hf.full.resolve_right fun h => by
    have := he.least
    omega
  have hstep : (2 : ℚ) ^ (e + 1) ≤ (2 : ℚ) ^ f :=
    zpow_le_zpow_right₀ one_le_two (by omega)
  rw [zpow_add_one₀ two_ne_zero] at hstep
  have := he.below
  linarith

/-- **There is one such exponent.** -/
theorem Spans.unique {y : ℚ} {e f : Int} (he : Spans y e) (hf : Spans y f) : e = f :=
  le_antisymm (hf.le he) (he.le hf)

theorem spans_max {y : ℚ} {e : Int} (hbelow : y < 2 ^ 53 * (2 : ℚ) ^ e)
    (hfull : 2 ^ 52 * (2 : ℚ) ^ e ≤ y) : Spans y (max e minExponent) := by
  rcases le_total e minExponent with h | h
  · rw [max_eq_right h]
    refine ⟨le_rfl, hbelow.trans_le ?_, .inr rfl⟩
    exact mul_le_mul_of_nonneg_left (zpow_le_zpow_right₀ one_le_two h) (by norm_num)
  · rw [max_eq_left h]
    exact ⟨h, hbelow, .inl hfull⟩

/-- A quotient of two natural numbers lies between powers of two that their lengths give. -/
theorem log2_quotient {num den : Nat} (hnum : num ≠ 0) (hden : den ≠ 0) :
    (2 : ℚ) ^ ((num.log2 : Int) - den.log2 - 1) < (num : ℚ) / den ∧
      (num : ℚ) / den < (2 : ℚ) ^ ((num.log2 : Int) - den.log2 + 1) := by
  have hnumLow : ((2 : ℚ) ^ num.log2) ≤ num := by exact_mod_cast Nat.log2_self_le hnum
  have hnumHigh : (num : ℚ) < (2 : ℚ) ^ (num.log2 + 1) := by exact_mod_cast Nat.lt_log2_self
  have hdenLow : ((2 : ℚ) ^ den.log2) ≤ den := by exact_mod_cast Nat.log2_self_le hden
  have hdenHigh : (den : ℚ) < (2 : ℚ) ^ (den.log2 + 1) := by exact_mod_cast Nat.lt_log2_self
  have hpos : (0 : ℚ) < den := by exact_mod_cast Nat.pos_of_ne_zero hden
  have hb : (0 : ℚ) < (2 : ℚ) ^ den.log2 := pow_pos two_pos _
  constructor
  · rw [lt_div_iff₀ hpos, show (num.log2 : Int) - den.log2 - 1 = num.log2 - (den.log2 + 1 : Nat) by
      push_cast; ring, zpow_sub₀ two_ne_zero, zpow_natCast, zpow_natCast, div_mul_eq_mul_div,
      div_lt_iff₀ (pow_pos two_pos _)]
    calc (2 : ℚ) ^ num.log2 * den < 2 ^ num.log2 * 2 ^ (den.log2 + 1) :=
          mul_lt_mul_of_pos_left hdenHigh (pow_pos two_pos _)
      _ ≤ num * 2 ^ (den.log2 + 1) := mul_le_mul_of_nonneg_right hnumLow (pow_pos two_pos _).le
  · rw [div_lt_iff₀ hpos, show (num.log2 : Int) - den.log2 + 1 = (num.log2 + 1 : Nat) - den.log2 by
      push_cast; ring, zpow_sub₀ two_ne_zero, zpow_natCast, zpow_natCast, div_mul_eq_mul_div,
      lt_div_iff₀ hb]
    calc (num : ℚ) * 2 ^ den.log2 < 2 ^ (num.log2 + 1) * 2 ^ den.log2 :=
          mul_lt_mul_of_pos_right hnumHigh hb
      _ ≤ 2 ^ (num.log2 + 1) * den := mul_le_mul_of_nonneg_left hdenLow (pow_pos two_pos _).le

/-- **Rounding finds the exponent of the quotient.** -/
theorem spans_fittingExponent {num den : Nat} (hnum : num ≠ 0) (hden : 0 < den) :
    Spans ((num : ℚ) / den) (fittingExponent num den) := by
  obtain ⟨hlow, hhigh⟩ := log2_quotient hnum hden.ne'
  have hfloor : ∀ e : Int, (scale num den e).1 / (scale num den e).2 < Nat.pow 2 52 ↔
      (num : ℚ) / den < 2 ^ 52 * (2 : ℚ) ^ e := by
    intro e
    have hd : (0 : ℚ) < (scale num den e).2 := by exact_mod_cast scale_den_pos hden num e
    rw [Nat.div_lt_iff_lt_mul (scale_den_pos hden num e), ← div_lt_iff₀ (two_zpow_pos e),
      ← scale_quotient, div_lt_iff₀ hd, Nat.pow_eq]
    exact_mod_cast Iff.rfl
  unfold fittingExponent
  dsimp only
  rw [if_congr (hfloor _) rfl rfl]
  generalize hbits : (num.log2 : Int) - den.log2 - 52 = e
  have hhigh' : (num : ℚ) / den < 2 ^ 53 * (2 : ℚ) ^ e := by
    rw [← zpow_natCast (2 : ℚ) 53, ← zpow_add₀ two_ne_zero]
    convert hhigh using 2
    push_cast
    omega
  have hlow' : 2 ^ 51 * (2 : ℚ) ^ e < (num : ℚ) / den := by
    rw [← zpow_natCast (2 : ℚ) 51, ← zpow_add₀ two_ne_zero]
    convert hlow using 2
    push_cast
    omega
  have hpow : (2 : ℚ) ^ (e - 1) = 2 ^ e / 2 := zpow_sub_one₀ two_ne_zero e
  split
  · rename_i hshort
    refine spans_max ?_ ?_ <;> rw [hpow]
    · linarith
    · linarith
  · rename_i hlong
    exact spans_max hhigh' (not_lt.mp hlong)

/-! ## 5. Rounding -/

/-- Two fractions with a common factor more or less round to one number. -/
theorem round_mul (s : Bool) {k den : Nat} (hk : 0 < k) (hden : 0 < den) (num : Nat) :
    round s (k * num) (k * den) = round s num den := by
  by_cases hnum : num = 0
  · rw [hnum, Nat.mul_zero]
    rfl
  have hnum' : k * num ≠ 0 := Nat.mul_ne_zero hk.ne' hnum
  have hquotient : ((k * num : Nat) : ℚ) / (k * den : Nat) = (num : ℚ) / den := by
    have hk' : (k : ℚ) ≠ 0 := by exact_mod_cast hk.ne'
    push_cast
    rw [mul_div_mul_left _ _ hk']
  have hexp : fittingExponent (k * num) (k * den) = fittingExponent num den := by
    refine Spans.unique (y := (num : ℚ) / den) ?_ (spans_fittingExponent hnum hden)
    rw [← hquotient]
    exact spans_fittingExponent hnum' (Nat.mul_pos hk hden)
  unfold round
  dsimp only
  rw [if_neg hnum, if_neg hnum', hexp, scale_mul]
  dsimp only
  rw [roundQuotient_mul hk]

/-- **Rounding looks at the quotient only.** -/
theorem round_congr (s : Bool) {num den num' den' : Nat} (hden : 0 < den) (hden' : 0 < den')
    (h : num * den' = num' * den) : round s num den = round s num' den' := by
  rw [← round_mul s hden' hden, ← round_mul s hden hden', Nat.mul_comm den' num, h,
    Nat.mul_comm num' den, Nat.mul_comm den' den]

/-- The exponent of a quotient is the only one that spans it. -/
theorem fittingExponent_eq {num den : Nat} {e : Int} (hnum : num ≠ 0) (hden : 0 < den)
    (h : Spans ((num : ℚ) / den) e) : fittingExponent num den = e :=
  (spans_fittingExponent hnum hden).unique h

/-- A quotient less than half a unit away from a significand at an exponent rounds to it there. -/
theorem roundQuotient_scale {num den m : Nat} {e : Int} (hden : 0 < den)
    (hlow : (m - 1 / 2) * (2 : ℚ) ^ e < (num : ℚ) / den)
    (hhigh : (num : ℚ) / den < (m + 1 / 2) * (2 : ℚ) ^ e) :
    roundQuotient (scale num den e).1 (scale num den e).2 = m := by
  have hd : (0 : ℚ) < (scale num den e).2 := by exact_mod_cast scale_den_pos hden num e
  rw [← lt_div_iff₀ (two_zpow_pos e), ← scale_quotient, lt_div_iff₀ hd] at hlow
  rw [← div_lt_iff₀ (two_zpow_pos e), ← scale_quotient, div_lt_iff₀ hd] at hhigh
  refine roundQuotient_eq ?_ ?_
  · have : (2 : ℚ) * (m * (scale num den e).2) < 2 * (scale num den e).1 + (scale num den e).2 := by
      linarith
    exact_mod_cast this
  · have : (2 : ℚ) * (scale num den e).1 < 2 * (m * (scale num den e).2) + (scale num den e).2 := by
      linarith
    exact_mod_cast this

/-- Rounding at an exponent that spans the quotient: a significand of one bit more is shortened. -/
theorem round_of_spans (s : Bool) {num den m : Nat} {e : Int} (hnum : num ≠ 0) (hden : 0 < den)
    (hspans : Spans ((num : ℚ) / den) e)
    (hlow : (m - 1 / 2) * (2 : ℚ) ^ e < (num : ℚ) / den)
    (hhigh : (num : ℚ) / den < (m + 1 / 2) * (2 : ℚ) ^ e) :
    round s num den = if m = 2 ^ 53 then if maxExponent < e + 1 then .infinity s
        else .finite s (2 ^ 52) (e + 1)
      else if maxExponent < e then .infinity s else .finite s m e := by
  unfold round
  dsimp only
  rw [if_neg hnum, fittingExponent_eq hnum hden hspans, roundQuotient_scale hden hlow hhigh]
  rw [Nat.pow_eq, Nat.pow_eq]
  by_cases hm : m = 2 ^ 53
  · rw [if_pos hm, if_pos hm]
  · rw [if_neg hm, if_neg hm]

/-- **What is less than half a step away from a number rounds to it.** Below a power of two the steps
    are half as long. -/
theorem round_of_near (s : Bool) {m num den : Nat} {e : Int} (h : Fits m e) (hm : m ≠ 0)
    (hden : 0 < den) (hlow : (m - 1 / 2) * (2 : ℚ) ^ e < (num : ℚ) / den)
    (hedge : m = 2 ^ 52 → (m - 1 / 4) * (2 : ℚ) ^ e < (num : ℚ) / den)
    (hhigh : (num : ℚ) / den < (m + 1 / 2) * (2 : ℚ) ^ e) :
    round s num den = .finite s m e := by
  have he := two_zpow_pos e
  have hnum : num ≠ 0 := by
    rintro rfl
    have hone : (1 : ℚ) ≤ m := by exact_mod_cast Nat.one_le_iff_ne_zero.mpr hm
    rw [Nat.cast_zero, zero_div] at hlow
    have : (0 : ℚ) < (m - 1 / 2) * 2 ^ e := mul_pos (by linarith) he
    linarith
  have hbelow := h.below
  by_cases hinside : 2 ^ 52 * (2 : ℚ) ^ e ≤ (num : ℚ) / den ∨ e = minExponent
  · have hspans : Spans ((num : ℚ) / den) e := by
      refine ⟨h.least, hhigh.trans_le (mul_le_mul_of_nonneg_right ?_ he.le), hinside⟩
      have : (m : ℚ) + 1 ≤ 2 ^ 53 := by exact_mod_cast hbelow
      linarith
    rw [round_of_spans s hnum hden hspans hlow hhigh, if_neg hbelow.ne,
      if_neg (not_lt.mpr h.greatest)]
  · -- just below a power of two, where the exponent is one less
    rw [not_or, not_le] at hinside
    obtain ⟨hunder, hleast⟩ := hinside
    have hm52 : m = 2 ^ 52 := by
      have hlt : ((m : ℚ) - 1 / 2) < 2 ^ 52 := lt_of_mul_lt_mul_right (hlow.trans hunder) he.le
      have hle : (m : ℚ) < (2 ^ 52 + 1 : Nat) := by
        push_cast
        linarith
      have := Nat.lt_succ_iff.mp (Nat.cast_lt.mp hle)
      exact le_antisymm this (h.full.resolve_right hleast)
    have hpow : (2 : ℚ) ^ (e - 1) = 2 ^ e / 2 := zpow_sub_one₀ two_ne_zero e
    have hedge' := hedge hm52
    rw [hm52] at hedge' ⊢
    push_cast at hedge'
    have hspans : Spans ((num : ℚ) / den) (e - 1) := by
      have := h.least
      refine ⟨by omega, ?_, .inl ?_⟩ <;> rw [hpow] <;> linarith
    have hcarry := round_of_spans s (m := 2 ^ 53) hnum hden hspans
      (by rw [hpow]; push_cast; linarith) (by rw [hpow]; push_cast; linarith)
    rw [hcarry, if_pos rfl, Int.sub_add_cancel, if_neg (not_lt.mpr h.greatest)]

end Binary64

end DomainGen
