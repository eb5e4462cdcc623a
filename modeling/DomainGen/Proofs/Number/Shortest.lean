import DomainGen.Number.Reading
import DomainGen.Proofs.Number.Rounding
import Mathlib.Algebra.Order.Floor.Semifield
import Mathlib.Data.List.DropRight
import Mathlib.Data.Nat.Digits.Defs
import Mathlib.Data.Rat.Floor

/-!
# The shortest decimal reads back

A decimal is a natural number times a power of ten. Which number it rounds to depends on its value
only: zeros at the end of its digits can be traded for the exponent.

The decimal that is written for a number rounds to the number. A decimal that is found does so because
it was tried; one is found because on the grid of seventeen digits the point nearest to the number is
less than half a step of the numbers away from it.

* `decimalDigits_mul_pow`, `head_decimalDigits` : the digits of a number, zeros behind them and none
  before;
* `decimalRatio_quotient` : the value of a decimal;
* `ofDecimal_mul_pow` : **zeros at the end do not matter**; `ofDecimal_sign` : the sign is carried along;
* `normalized_spec` : the digits of a decimal without the zeros at the end;
* `leadingExponent_spec` : the power of ten of the first digit;
* `exists_near` : **seventeen digits suffice**;
* `ofDecimal_shortest` : **the shortest decimal of a number rounds to it**.
-/

namespace DomainGen

/-! ## 1. Digits -/

theorem decimalDigits_ne_nil (n : Nat) : decimalDigits n ≠ [] := Nat.toDigits_ne_nil

theorem isDigit_of_mem {n : Nat} {c : Char} (h : c ∈ decimalDigits n) : c.isDigit = true :=
  Nat.isDigit_of_mem_toDigits (by decide) (by decide) h

theorem length_decimalDigits_pos (n : Nat) : 0 < (decimalDigits n).length :=
  Nat.length_toDigits_pos

/-- A number lies below the power of ten that has one digit more. -/
theorem lt_pow_length (n : Nat) : n < 10 ^ (decimalDigits n).length :=
  (Nat.length_toDigits_le_iff (by decide) (length_decimalDigits_pos n)).mp le_rfl

/-- A number that is not zero has as many digits as the power of ten below it. -/
theorem pow_length_le {n : Nat} (h : n ≠ 0) : 10 ^ ((decimalDigits n).length - 1) ≤ n := by
  by_contra hlt
  rw [not_le] at hlt
  have hpos := length_decimalDigits_pos n
  by_cases hone : (decimalDigits n).length = 1
  · rw [hone] at hlt
    exact h (Nat.lt_one_iff.mp hlt)
  · have := (Nat.length_toDigits_le_iff (b := 10) (by decide) (by omega)).mpr hlt
    unfold decimalDigits at *
    omega

/-- A number that is no longer than a power of ten has no more digits. -/
theorem length_decimalDigits_le {n k : Nat} (hk : 0 < k) :
    (decimalDigits n).length ≤ k ↔ n < 10 ^ k :=
  Nat.length_toDigits_le_iff (by decide) hk

/-- Zeros behind the digits of a number multiply it. -/
theorem decimalDigits_mul_pow {n : Nat} (h : n ≠ 0) : ∀ k : Nat,
    decimalDigits (n * 10 ^ k) = decimalDigits n ++ List.replicate k '0'
  | 0 => by rw [pow_zero, Nat.mul_one, List.replicate_zero, List.append_nil]
  | k + 1 => by
      have hpos : 0 < n * 10 ^ k := Nat.mul_pos (Nat.pos_of_ne_zero h) (Nat.pow_pos (by decide))
      have hlast := Nat.toDigits_append_toDigits (b := 10) (by decide) hpos (by decide : 0 < 10)
      rw [Nat.toDigits_zero, Nat.add_zero] at hlast
      rw [pow_succ, ← Nat.mul_assoc, Nat.mul_comm _ 10, List.replicate_succ', ← List.append_assoc,
        ← decimalDigits_mul_pow h k]
      exact hlast.symm

/-- The digits of a number that is not zero do not begin with a zero. -/
theorem head_decimalDigits {n : Nat} (h : n ≠ 0) : (decimalDigits n).head? ≠ some '0' := by
  induction n using Nat.strongRecOn with
  | ind n ih =>
      unfold decimalDigits at ih ⊢
      rw [Nat.toDigits_eq_if (by decide)]
      split
      · intro hzero
        exact h (Nat.digitChar_eq_zero.mp (Option.some.inj hzero))
      · rename_i hlarge
        rw [List.head?_append_of_ne_nil _ Nat.toDigits_ne_nil]
        exact ih (n / 10) (Nat.div_lt_self (by omega) (by decide)) (by omega)

/-! ## 2. Values -/

namespace Binary64

theorem ten_zpow_pos (e : Int) : (0 : ℚ) < (10 : ℚ) ^ e := zpow_pos (by norm_num) e

theorem decimalRatio_den_pos (n : Nat) (e : Int) : 0 < (decimalRatio n e).2 := by
  cases e with
  | ofNat k => exact Nat.one_pos
  | negSucc k => exact Nat.pow_pos (by decide)

/-- **The value of a decimal.** -/
theorem decimalRatio_quotient (n : Nat) (e : Int) :
    ((decimalRatio n e).1 : ℚ) / ((decimalRatio n e).2 : ℚ) = n * (10 : ℚ) ^ e := by
  cases e with
  | ofNat k =>
      simp only [decimalRatio, Int.ofNat_eq_natCast, zpow_natCast, Nat.pow_eq, Nat.cast_mul,
        Nat.cast_pow, Nat.cast_ofNat, Nat.cast_one, div_one]
  | negSucc k =>
      simp only [decimalRatio, zpow_negSucc, Nat.pow_eq, Nat.cast_pow, Nat.cast_ofNat]
      rw [div_eq_mul_inv]

theorem round_decimalRatio_congr (s : Bool) {m n : Nat} {e f : Int}
    (h : (m : ℚ) * (10 : ℚ) ^ e = n * (10 : ℚ) ^ f) :
    round s (decimalRatio m e).1 (decimalRatio m e).2 =
      round s (decimalRatio n f).1 (decimalRatio n f).2 := by
  refine round_congr s (decimalRatio_den_pos m e) (decimalRatio_den_pos n f) ?_
  rw [← decimalRatio_quotient, ← decimalRatio_quotient, div_eq_div_iff] at h
  · exact_mod_cast h
  · exact_mod_cast (decimalRatio_den_pos m e).ne'
  · exact_mod_cast (decimalRatio_den_pos n f).ne'

/-- **Zeros at the end of a decimal do not matter.** -/
theorem ofDecimal_mul_pow (s : Bool) {n : Nat} (h : n ≠ 0) (k : Nat) (e : Int) :
    ofDecimal s (n * 10 ^ k) (e - k) = ofDecimal s n e := by
  have hn : n * 10 ^ k ≠ 0 := Nat.mul_ne_zero h (Nat.pow_pos (by decide)).ne'
  have hlength : e - (k : Int) + ((decimalDigits (n * 10 ^ k)).length : Int) =
      e + (decimalDigits n).length := by
    rw [decimalDigits_mul_pow h, List.length_append, List.length_replicate]
    omega
  have hvalue : ((n * 10 ^ k : Nat) : ℚ) * (10 : ℚ) ^ (e - k) = n * (10 : ℚ) ^ e := by
    rw [zpow_sub₀ (by norm_num), zpow_natCast]
    push_cast
    have : (10 : ℚ) ^ k ≠ 0 := pow_ne_zero k (by norm_num)
    field_simp
  unfold ofDecimal
  dsimp only
  rw [if_neg h, if_neg hn, hlength, round_decimalRatio_congr s hvalue]

/-- The number with the given sign. -/
def withSign (s : Bool) : Binary64 → Binary64
  | .nan tag => .nan tag
  | .infinity _ => .infinity s
  | .finite _ m e => .finite s m e

theorem round_sign (s : Bool) (num den : Nat) :
    round s num den = (round false num den).withSign s := by
  unfold round
  dsimp only
  split
  · rfl
  · rw [apply_ite (withSign s)]
    rfl

/-- **The sign of a decimal is that of the number it rounds to.** -/
theorem ofDecimal_sign (s : Bool) (n : Nat) (e : Int) :
    ofDecimal s n e = (ofDecimal false n e).withSign s := by
  unfold ofDecimal
  dsimp only
  split
  · rfl
  · split
    · rfl
    · split
      · rfl
      · exact round_sign s _ _

end Binary64

/-! ## 3. The digits without zeros at the end -/

/-- The number that digits denote. -/
theorem digitsValue_map (cs : List Char) :
    digitsValue (cs.map fun c => c.toNat - 48) = Nat.ofDigitChars 10 cs 0 := by
  rw [Nat.ofDigitChars_eq_foldl]
  unfold digitsValue
  rw [List.foldl_map]
  congr 1
  funext n c
  rw [Nat.mul_comm]
  rfl

/-- A text is what is left of it without the zeros at its end, and these. -/
theorem exists_zeros (cs : List Char) : ∃ k : Nat,
    cs = (cs.reverse.dropWhile (· == '0')).reverse ++ List.replicate k '0' := by
  refine ⟨(cs.rtakeWhile (· == '0')).length, ?_⟩
  have hzeros : cs.rtakeWhile (· == '0') = List.replicate (cs.rtakeWhile (· == '0')).length '0' :=
    List.eq_replicate_of_mem fun c hc => by simpa using List.mem_rtakeWhile_imp hc
  rw [← hzeros]
  exact List.rdropWhile_append_rtakeWhile.symm

/-- **The digits of a decimal without the zeros at the end** are those of the number that is left. -/
theorem normalized_spec (d : Decimal) (h : d.digits ≠ 0) : ∃ n k : Nat, n ≠ 0 ∧
    d.digits = n * 10 ^ k ∧
    d.normalized = (decimalDigits n, d.exponent + k + (decimalDigits n).length) := by
  obtain ⟨k, hk⟩ := exists_zeros (decimalDigits d.digits)
  generalize hkept : ((decimalDigits d.digits).reverse.dropWhile (· == '0')).reverse = kept at hk
  have hvalue : d.digits = Nat.ofDigitChars 10 kept 0 * 10 ^ k := by
    have hread : Nat.ofDigitChars 10 (decimalDigits d.digits) 0 = d.digits :=
      Nat.ofDigitChars_ten_toDigits
    rw [hk, Nat.ofDigitChars_append, Nat.ofDigitChars_replicate_zero, Nat.mul_comm] at hread
    exact hread.symm
  have hne : Nat.ofDigitChars 10 kept 0 ≠ 0 := by
    intro hzero
    rw [hzero, Nat.zero_mul] at hvalue
    exact h hvalue
  have hdigits : kept = decimalDigits (Nat.ofDigitChars 10 kept 0) := by
    have hsame := decimalDigits_mul_pow hne k
    rw [← hvalue, hk] at hsame
    exact List.append_cancel_right hsame
  refine ⟨Nat.ofDigitChars 10 kept 0, k, hne, hvalue, ?_⟩
  unfold Decimal.normalized
  dsimp only
  rw [hkept, ← hdigits]
  refine Prod.ext rfl ?_
  show d.exponent + ((decimalDigits d.digits).length : Int) = _
  rw [hk, List.length_append, List.length_replicate]
  push_cast
  omega

namespace Binary64

/-! ## 4. The first digit -/

/-- As many digits as the whole part of a quotient has bound the quotient. -/
theorem pow_length_quotient {num den : Nat} (hden : 0 < den) (h : den ≤ num) :
    10 ^ ((decimalDigits (num / den)).length - 1) * den ≤ num ∧
      num < 10 ^ (decimalDigits (num / den)).length * den := by
  have hne : num / den ≠ 0 := (Nat.div_pos h hden).ne'
  exact ⟨(Nat.mul_le_mul_right den (pow_length_le hne)).trans (Nat.div_mul_le_self num den),
    (Nat.div_lt_iff_lt_mul hden).mp (lt_pow_length _)⟩

/-- **The power of ten of the first digit.** -/
theorem leadingExponent_spec {num den : Nat} (hnum : 0 < num) (hden : 0 < den) :
    (10 : ℚ) ^ leadingExponent num den ≤ (num : ℚ) / den ∧
      (num : ℚ) / den < (10 : ℚ) ^ (leadingExponent num den + 1) := by
  have hden' : (0 : ℚ) < den := by exact_mod_cast hden
  unfold leadingExponent
  by_cases hlarge : den ≤ num
  · obtain ⟨hlow, hhigh⟩ := pow_length_quotient hden hlarge
    have hlength := length_decimalDigits_pos (num / den)
    rw [if_pos hlarge, le_div_iff₀ hden', div_lt_iff₀ hden', Int.sub_add_cancel,
      show ((decimalDigits (num / den)).length : Int) - 1 =
        ((decimalDigits (num / den)).length - 1 : Nat) by omega, zpow_natCast, zpow_natCast]
    exact ⟨by exact_mod_cast hlow, by exact_mod_cast hhigh⟩
  · obtain ⟨hlow, hhigh⟩ := pow_length_quotient hnum (not_le.mp hlarge).le
    have hlength := length_decimalDigits_pos (den / num)
    rw [if_neg hlarge]
    dsimp only
    generalize (decimalDigits (den / num)).length = g at hlow hhigh hlength
    -- a power that brings the quotient to a first digit before the point
    have hfirst : ∀ j : Nat, den ≤ num * 10 ^ j → num * 10 ^ j < 10 * den →
        (10 : ℚ) ^ (-(j : Int)) ≤ (num : ℚ) / den ∧ (num : ℚ) / den < (10 : ℚ) ^ (-(j : Int) + 1) := by
      intro j hle hlt
      have hpow : (0 : ℚ) < 10 ^ j := pow_pos (by norm_num) j
      rw [le_div_iff₀ hden', div_lt_iff₀ hden', zpow_add_one₀ (by norm_num), zpow_neg, zpow_natCast,
        inv_mul_le_iff₀ hpow, mul_assoc, ← div_eq_inv_mul, lt_div_iff₀ hpow]
      refine ⟨?_, by exact_mod_cast hlt⟩
      rw [mul_comm]
      exact_mod_cast hle
    have hpow : num * 10 ^ g = 10 * (10 ^ (g - 1) * num) := by
      obtain ⟨k, rfl⟩ : ∃ k, g = k + 1 := ⟨g - 1, by omega⟩
      rw [Nat.add_sub_cancel]
      ring
    simp only [List.find?_cons, Nat.pow_eq]
    by_cases hbefore : den ≤ num * 10 ^ (g - 1)
    · rw [decide_eq_true hbefore]
      refine hfirst (g - 1) hbefore ?_
      rw [Nat.mul_comm]
      omega
    · have hat : den ≤ num * 10 ^ g := by
        rw [Nat.mul_comm]
        exact hhigh.le
      rw [decide_eq_false hbefore, decide_eq_true hat]
      refine hfirst g hat ?_
      rw [Nat.mul_comm] at hbefore
      omega

theorem two_zpow_le {a b : Nat} (h : 2 ^ a ≤ 10 ^ b) : (2 : ℚ) ^ (a : Int) ≤ (10 : ℚ) ^ (b : Int) := by
  rw [zpow_natCast, zpow_natCast]
  exact_mod_cast h

/-- The first digit of a number lies within the range of the numbers. -/
theorem leadingExponent_bounds {m : Nat} {e lead : Int} (h : Fits m e) (hm : m ≠ 0)
    (hlow : (10 : ℚ) ^ lead ≤ magnitude m e) (hhigh : magnitude m e < (10 : ℚ) ^ (lead + 1)) :
    -325 ≤ lead ∧ lead ≤ 310 := by
  have hten : ∀ {a b : Int}, (10 : ℚ) ^ a < (10 : ℚ) ^ b → a < b := fun h =>
    (zpow_lt_zpow_iff_right₀ (by norm_num)).mp h
  have hlargest : magnitude m e < (10 : ℚ) ^ (310 : Int) := by
    have hm53 : (m : ℚ) < 2 ^ 53 := by exact_mod_cast h.below
    calc magnitude m e ≤ m * (2 : ℚ) ^ maxExponent :=
          mul_le_mul_of_nonneg_left (zpow_le_zpow_right₀ one_le_two h.greatest) (Nat.cast_nonneg m)
      _ < 2 ^ 53 * (2 : ℚ) ^ maxExponent := mul_lt_mul_of_pos_right hm53 (two_zpow_pos _)
      _ ≤ (10 : ℚ) ^ (310 : Int) := by
          rw [← zpow_natCast (2 : ℚ) 53, ← zpow_add₀ two_ne_zero]
          exact two_zpow_le (a := 1024) (b := 310) (by decide +kernel)
  have hsmallest : (10 : ℚ) ^ (-325 : Int) < magnitude m e := by
    have hm1 : (1 : ℚ) ≤ m := by exact_mod_cast Nat.one_le_iff_ne_zero.mpr hm
    calc (10 : ℚ) ^ (-325 : Int) < (2 : ℚ) ^ minExponent := by
          rw [minExponent, zpow_neg, zpow_neg, inv_lt_inv₀ (ten_zpow_pos _) (two_zpow_pos _)]
          exact (two_zpow_le (a := 1074) (b := 324) (by decide +kernel)).trans_lt
            (zpow_lt_zpow_right₀ (by norm_num) (by norm_num))
      _ ≤ (2 : ℚ) ^ e := zpow_le_zpow_right₀ one_le_two h.least
      _ ≤ magnitude m e := le_mul_of_one_le_left (two_zpow_pos e).le hm1
  have := hten (hlow.trans_lt hlargest)
  have := hten (hsmallest.trans hhigh)
  omega

/-! ## 5. Seventeen digits -/

/-- A decimal less than half a step away from a number rounds to it. -/
theorem ofDecimal_of_near (s : Bool) {m n : Nat} {e f : Int} (h : Fits m e) (hm : m ≠ 0)
    (hn : n ≠ 0) (hleast : -400 ≤ f + (decimalDigits n).length)
    (hgreatest : f + (decimalDigits n).length ≤ 400)
    (hlow : (m - 1 / 2) * (2 : ℚ) ^ e < n * (10 : ℚ) ^ f)
    (hedge : m = 2 ^ 52 → (m - 1 / 4) * (2 : ℚ) ^ e < n * (10 : ℚ) ^ f)
    (hhigh : n * (10 : ℚ) ^ f < (m + 1 / 2) * (2 : ℚ) ^ e) :
    ofDecimal s n f = .finite s m e := by
  rw [← decimalRatio_quotient] at hlow hedge hhigh
  unfold ofDecimal
  dsimp only
  rw [if_neg hn, if_neg (not_lt.mpr hgreatest), if_neg (not_lt.mpr hleast)]
  exact round_of_near s h hm (decimalRatio_den_pos n f) hlow hedge hhigh

/-- On the grid of seventeen digits a point at most half a step of the grid away from a number rounds
    to the number. -/
theorem ofDecimal_of_half (s : Bool) {m n : Nat} {e lead : Int} (h : Fits m e) (hm : m ≠ 0)
    (hlow : (10 : ℚ) ^ lead ≤ magnitude m e) (hhigh : magnitude m e < (10 : ℚ) ^ (lead + 1))
    (hbelow : magnitude m e / (10 : ℚ) ^ (lead - 16) - 1 / 2 ≤ n)
    (habove : n ≤ magnitude m e / (10 : ℚ) ^ (lead - 16) + 1 / 2) :
    ofDecimal s n (lead - 16) = .finite s m e := by
  obtain ⟨hleast, hgreatest⟩ := leadingExponent_bounds h hm hlow hhigh
  have hgrid : (10 : ℚ) ^ lead = 10 ^ 16 * (10 : ℚ) ^ (lead - 16) := by
    rw [← zpow_natCast (10 : ℚ) 16, ← zpow_add₀ (by norm_num)]
    congr 1
    push_cast
    omega
  rw [zpow_add_one₀ (by norm_num), hgrid] at hhigh
  rw [hgrid] at hlow
  have hstep := ten_zpow_pos (lead - 16)
  have he := two_zpow_pos e
  have hpositive := length_decimalDigits_pos n
  generalize hg : (10 : ℚ) ^ (lead - 16) = g at *
  -- the number on the grid
  have hq : magnitude m e = magnitude m e / g * g := (div_mul_cancel₀ _ hstep.ne').symm
  have hqlow : (10 : ℚ) ^ 16 ≤ magnitude m e / g := (le_div_iff₀ hstep).mpr hlow
  have hqhigh : magnitude m e / g < 10 ^ 17 := (div_lt_iff₀ hstep).mpr (by linarith)
  generalize magnitude m e / g = q at *
  have hn : n ≠ 0 := by
    rintro rfl
    rw [Nat.cast_zero] at hbelow
    linarith
  have hlength : (decimalDigits n).length ≤ 18 := by
    have hlt : (n : ℚ) < 10 ^ 18 := by linarith
    exact (length_decimalDigits_le (by decide)).mpr (by exact_mod_cast hlt)
  -- half a step of the grid is less than half a step of the numbers
  have hunder := mul_le_mul_of_nonneg_right hbelow hstep.le
  have hover := mul_le_mul_of_nonneg_right habove hstep.le
  have hm53 : (m : ℚ) * 2 ^ e < 2 ^ 53 * 2 ^ e :=
    mul_lt_mul_of_pos_right (by exact_mod_cast h.below) he
  rw [sub_mul, ← hq] at hunder
  rw [add_mul, ← hq] at hover
  unfold magnitude at hunder hover hlow
  refine ofDecimal_of_near s h hm hn (by omega) (by omega) ?_ (fun hedge => ?_) ?_ <;> rw [hg]
  · linarith
  · rw [hedge] at hlow hunder ⊢
    push_cast at hlow hunder ⊢
    linarith
  · linarith

/-- **Seventeen digits suffice**: one of the two neighbours on their grid rounds to the number. -/
theorem exists_near {m : Nat} {e lead : Int} (h : Fits m e) (hm : m ≠ 0)
    (hlow : (10 : ℚ) ^ lead ≤ magnitude m e) (hhigh : magnitude m e < (10 : ℚ) ^ (lead + 1)) :
    ofDecimal false ⌊magnitude m e / (10 : ℚ) ^ (lead - 16)⌋₊ (lead - 16) = .finite false m e ∨
      ofDecimal false (⌊magnitude m e / (10 : ℚ) ^ (lead - 16)⌋₊ + 1) (lead - 16) =
        .finite false m e := by
  have hnonneg : 0 ≤ magnitude m e / (10 : ℚ) ^ (lead - 16) :=
    div_nonneg (magnitude_nonneg m e) (ten_zpow_pos _).le
  have hbelow := Nat.floor_le hnonneg
  have habove := Nat.lt_floor_add_one (magnitude m e / (10 : ℚ) ^ (lead - 16))
  rcases le_total (magnitude m e / (10 : ℚ) ^ (lead - 16))
    (⌊magnitude m e / (10 : ℚ) ^ (lead - 16)⌋₊ + 1 / 2) with hnear | hnear
  · exact .inl (ofDecimal_of_half false h hm hlow hhigh (by linarith) (by linarith))
  · refine .inr (ofDecimal_of_half false h hm hlow hhigh ?_ ?_) <;> push_cast <;> linarith

end Binary64

/-! ## 6. The search -/

open Binary64

/-- The whole part of a scaled quotient. -/
theorem exists_scaled (num den : Nat) (e : Int) : ∃ n d : Nat,
    n / d = ⌊(num : ℚ) / den / (10 : ℚ) ^ e⌋₊ ∧ ∀ x, chooseNeighbour x num den e =
      match ofDecimal false (n / d) e == x, ofDecimal false (n / d + 1) e == x with
      | true, false => some ⟨n / d, e⟩
      | false, true => some ⟨n / d + 1, e⟩
      | false, false => none
      | true, true =>
        if 2 * (n % d) < d || (2 * (n % d) == d && n / d % 2 == 0) then some ⟨n / d, e⟩
        else some ⟨n / d + 1, e⟩ := by
  cases e with
  | ofNat k =>
      refine ⟨num, den * Nat.pow 10 k, ?_, fun x => rfl⟩
      rw [Nat.pow_eq, ← Nat.floor_div_eq_div (K := ℚ), Int.ofNat_eq_natCast, zpow_natCast, div_div]
      push_cast
      rfl
  | negSucc k =>
      refine ⟨num * Nat.pow 10 (k + 1), den, ?_, fun x => rfl⟩
      rw [Nat.pow_eq, ← Nat.floor_div_eq_div (K := ℚ), zpow_negSucc, div_inv_eq_mul,
        div_mul_eq_mul_div]
      push_cast
      rfl

/-- **A neighbour is chosen if one rounds to the number, and then it is such a one.** -/
theorem chooseNeighbour_spec (x : Binary64) (num den : Nat) (e : Int) :
    (∃ d, chooseNeighbour x num den e = some d ∧ ofDecimal false d.digits d.exponent = x) ∨
      chooseNeighbour x num den e = none ∧
        ofDecimal false ⌊(num : ℚ) / den / (10 : ℚ) ^ e⌋₊ e ≠ x ∧
        ofDecimal false (⌊(num : ℚ) / den / (10 : ℚ) ^ e⌋₊ + 1) e ≠ x := by
  obtain ⟨n, d, hfloor, hchoose⟩ := exists_scaled num den e
  rw [hchoose, ← hfloor]
  split
  · rename_i hbelow _
    exact .inl ⟨_, rfl, beq_iff_eq.mp hbelow⟩
  · rename_i _ habove
    exact .inl ⟨_, rfl, beq_iff_eq.mp habove⟩
  · rename_i hbelow habove
    exact .inr ⟨rfl, beq_eq_false_iff_ne.mp hbelow, beq_eq_false_iff_ne.mp habove⟩
  · rename_i hbelow habove
    split
    · exact .inl ⟨_, rfl, beq_iff_eq.mp hbelow⟩
    · exact .inl ⟨_, rfl, beq_iff_eq.mp habove⟩

/-- **The shortest decimal of a number rounds to it.** -/
theorem ofDecimal_shortest {m : Nat} {e : Int} (h : Fits m e) (hm : m ≠ 0) :
    ofDecimal false (shortest m e).digits (shortest m e).exponent = .finite false m e := by
  have hnum : 0 < (ratio m e).1 := by
    cases e with
    | ofNat k => exact Nat.mul_pos (Nat.pos_of_ne_zero hm) (Nat.pow_pos two_pos)
    | negSucc k => exact Nat.pos_of_ne_zero hm
  obtain ⟨hlow, hhigh⟩ := leadingExponent_spec hnum (ratio_den_pos m e)
  rw [← magnitude_eq_ratio] at hlow hhigh
  have hspec : ∀ k : Int, _ := chooseNeighbour_spec (.finite false m e) (ratio m e).1 (ratio m e).2
  unfold shortest
  dsimp only
  cases hfound : (List.range 17).findSome? fun (n : Nat) => chooseNeighbour (.finite false m e)
      (ratio m e).1 (ratio m e).2 (leadingExponent (ratio m e).1 (ratio m e).2 - n) with
  | some d =>
      obtain ⟨n, _, hn⟩ := List.exists_of_findSome?_eq_some hfound
      rcases hspec (leadingExponent (ratio m e).1 (ratio m e).2 - n) with ⟨d', hd', hreads⟩ | ⟨hnone, _⟩
      · cases hn.symm.trans hd'
        exact hreads
      · cases hn.symm.trans hnone
  | none =>
      -- the grid of seventeen digits has a neighbour that rounds to the number
      have hlast := List.findSome?_eq_none_iff.mp hfound 16 (by decide)
      have hnear := exists_near h hm hlow hhigh
      rw [magnitude_eq_ratio] at hnear
      rcases hspec (leadingExponent (ratio m e).1 (ratio m e).2 - 16) with ⟨d, hd, _⟩ | ⟨_, hno⟩
      · cases hlast.symm.trans hd
      · exact absurd hnear (not_or.mpr hno)

end DomainGen
