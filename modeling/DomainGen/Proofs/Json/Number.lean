import DomainGen.Data.Text
import DomainGen.Json.Reader
import DomainGen.Proofs.Data.Json
import DomainGen.Proofs.Number.Shortest

/-!
# Numbers in JSON

The text of a number is read back as the number, whatever follows it that is no part of a number: an
integer from its digits, a floating-point number from either layout of its shortest decimal.

* `Json.EndsNumber` : what may follow a number; `Json.Whole` : the digits before a point;
* `readNumber_numberText` : what a number is read as, from its parts;
* `IsDecimal` : texts that are read as a decimal; `isDecimal_positional`, `isDecimal_scientific` : the
  two layouts;
* `readNumber_decimalDigits`, `readNumber_finiteText` : **numbers are read back**.
-/

namespace DomainGen.Json

/-! ## 1. What follows a number -/

/-- Can the character stand behind a number and belong to it? -/
def isNumeral (c : Char) : Bool :=
  c.isDigit || c == '.' || c == 'e' || c == 'E'

/-- The text does not begin with a character that would belong to a number before it. -/
def EndsNumber (s : List Char) : Prop := ∀ c ∈ s.head?, isNumeral c = false

theorem EndsNumber.not_digit {s : List Char} (h : EndsNumber s) :
    ∀ c ∈ s.head?, c.isDigit = false := by
  intro c hc
  have hnot := h c hc
  unfold isNumeral at hnot
  simp only [Bool.or_eq_false_iff] at hnot
  exact hnot.1.1.1

theorem takeAsciiDigits_append {ds rest : List Char} (hds : ∀ c ∈ ds, c.isDigit = true)
    (hrest : ∀ c ∈ rest.head?, c.isDigit = false) : takeAsciiDigits (ds ++ rest) = (ds, rest) := by
  unfold takeAsciiDigits
  rw [List.takeWhile_append_of_pos hds, List.dropWhile_append_of_pos hds]
  cases rest with
  | nil => rw [List.takeWhile_nil, List.append_nil, List.dropWhile_nil]
  | cons c rest =>
      have hc := hrest c rfl
      rw [List.takeWhile_cons, List.dropWhile_cons, hc]
      simp

/-! ## 2. The parts of a number -/

/-- The digits before a point: a zero alone, or digits that do not begin with one. -/
structure Whole (ds : List Char) : Prop where
  digits : ∀ c ∈ ds, c.isDigit = true
  ne_nil : ds ≠ []
  head : ds = ['0'] ∨ ds.head? ≠ some '0'

/-- The digits of a number are such. -/
theorem whole_decimalDigits (n : Nat) : Whole (decimalDigits n) := by
  refine ⟨fun c hc => isDigit_of_mem hc, decimalDigits_ne_nil n, ?_⟩
  by_cases h : n = 0
  · subst h
    exact .inl (Nat.toDigits_zero 10)
  · exact .inr (head_decimalDigits h)

/-- The text of a fraction. -/
def fractionText (ds : List Char) : List Char :=
  if ds.isEmpty then [] else '.' :: ds

/-- The text of an exponent, from its sign and its digits. -/
def exponentText : Option (Bool × List Char) → List Char
  | none => []
  | some (negative, ds) => 'e' :: (if negative then '-' else '+') :: ds

/-- The value of an exponent. -/
def exponentValue : Option (Bool × List Char) → Option Int
  | none => none
  | some (negative, ds) =>
    some (if negative then -(Nat.ofDigitChars 10 ds 0 : Int) else Nat.ofDigitChars 10 ds 0)

variable {whole fraction rest : List Char} {exponent : Option (Bool × List Char)}

theorem takeFraction_append (hfraction : ∀ c ∈ fraction, c.isDigit = true)
    (hrest : ∀ c ∈ rest.head?, c.isDigit = false ∧ c ≠ '.') :
    takeFraction (fractionText fraction ++ rest) = (fraction, rest) := by
  unfold fractionText
  cases fraction with
  | nil =>
      show takeFraction rest = _
      unfold takeFraction
      split
      · exact absurd rfl (hrest '.' rfl).2
      · rfl
  | cons d ds =>
      show (if (takeAsciiDigits (d :: ds ++ rest)).1.isEmpty = true then ([], '.' :: (d :: ds ++ rest))
        else takeAsciiDigits (d :: ds ++ rest)) = _
      rw [takeAsciiDigits_append hfraction fun c hc => (hrest c hc).1]
      rfl

theorem takeExponent_append
    (hexponent : ∀ x ∈ exponent, x.2 ≠ [] ∧ ∀ c ∈ x.2, c.isDigit = true) (hrest : EndsNumber rest) :
    takeExponent (exponentText exponent ++ rest) = (exponentValue exponent, rest) := by
  cases exponent with
  | none =>
      show takeExponent rest = (none, rest)
      cases rest with
      | nil => rfl
      | cons c rest =>
          have hc := hrest c rfl
          unfold isNumeral at hc
          simp only [Bool.or_eq_false_iff] at hc
          show (if (c == 'e' || c == 'E') = true then _ else (none, c :: rest)) = _
          rw [hc.1.2, hc.2]
          rfl
  | some x =>
      obtain ⟨negative, ds⟩ := x
      obtain ⟨hne, hds⟩ := hexponent _ rfl
      have hsign : splitSign ((if negative then '-' else '+') :: (ds ++ rest)) =
          (negative, ds ++ rest) := by
        cases negative <;> rfl
      show takeExponent ('e' :: (if negative then '-' else '+') :: (ds ++ rest)) = _
      unfold takeExponent
      dsimp only
      rw [hsign]
      dsimp only
      rw [takeAsciiDigits_append hds hrest.not_digit]
      dsimp only
      rw [digitsValue_map, List.isEmpty_eq_false_iff.mpr hne]
      rfl

/-! ## 3. Reading -/

/-- The text of a number. -/
def numberText (whole fraction : List Char) (exponent : Option (Bool × List Char)) : List Char :=
  whole ++ (fractionText fraction ++ exponentText exponent)

theorem head_exponentText (hrest : EndsNumber rest) :
    ∀ c ∈ (exponentText exponent ++ rest).head?, c.isDigit = false ∧ c ≠ '.' := by
  intro c hc
  cases exponent with
  | none =>
      have hnot := hrest c hc
      refine ⟨hrest.not_digit c hc, ?_⟩
      rintro rfl
      exact absurd hnot (by decide)
  | some x =>
      obtain rfl : 'e' = c := Option.some.inj hc
      decide

/-- **What is read from the text of a number.** -/
theorem readNumber_numberText (hwhole : Whole whole)
    (hfraction : ∀ c ∈ fraction, c.isDigit = true)
    (hexponent : ∀ x ∈ exponent, x.2 ≠ [] ∧ ∀ c ∈ x.2, c.isDigit = true) (hrest : EndsNumber rest)
    (negative : Bool) : readNumber negative (numberText whole fraction exponent ++ rest) =
      if fraction.isEmpty && exponent.isNone then
        if maxIntegerDigits < whole.length then .error .tooManyDigits
        else .ok (.int (if negative then -(Nat.ofDigitChars 10 whole 0 : Int)
          else Nat.ofDigitChars 10 whole 0), rest)
      else .ok (.float (.ofDecimal negative (Nat.ofDigitChars 10 (whole ++ fraction) 0)
        ((exponentValue exponent).getD 0 - fraction.length)), rest) := by
  have hends : ∀ c ∈ (exponentText exponent ++ rest).head?, c.isDigit = false ∧ c ≠ '.' :=
    head_exponentText hrest
  have hpoint : ∀ c ∈ (fractionText fraction ++ (exponentText exponent ++ rest)).head?,
      c.isDigit = false := by
    cases fraction with
    | nil => exact fun c hc => (hends c hc).1
    | cons d ds =>
        intro c hc
        obtain rfl : '.' = c := Option.some.inj hc
        decide
  have hsplit : numberText whole fraction exponent ++ rest =
      whole ++ (fractionText fraction ++ (exponentText exponent ++ rest)) := by
    unfold numberText
    rw [List.append_assoc, List.append_assoc]
  have hvalue : (exponentValue exponent).isNone = exponent.isNone := by
    cases exponent <;> rfl
  rw [hsplit]
  unfold readNumber
  rw [takeAsciiDigits_append hwhole.digits hpoint]
  dsimp only
  split
  · -- only a zero alone begins with one
    rename_i more
    have halone : more = [] := (List.cons.inj (hwhole.head.resolve_right fun h => h rfl)).2
    subst halone
    dsimp only
    rw [List.nil_append, takeFraction_append hfraction hends]
    dsimp only
    rw [takeExponent_append hexponent hrest]
    dsimp only
    rw [digitsValue_map, hvalue]
    cases fraction <;> rfl
  · dsimp only
    rw [takeFraction_append hfraction hends]
    dsimp only
    rw [takeExponent_append hexponent hrest]
    dsimp only
    rw [digitsValue_map, hvalue, List.isEmpty_eq_false_iff.mpr hwhole.ne_nil,
      if_neg Bool.false_ne_true]
    cases fraction with
    | nil => rw [List.append_nil]
    | cons d ds => rfl

/-! ## 4. Integers -/

/-- **An integer is read back.** -/
theorem readNumber_decimalDigits {n : Nat} (hn : (decimalDigits n).length ≤ maxIntegerDigits)
    (negative : Bool) (rest : List Char) (hrest : EndsNumber rest) :
    readNumber negative (decimalDigits n ++ rest) =
      .ok (.int (if negative then -(n : Int) else n), rest) := by
  have hnone : ∀ c ∈ ([] : List Char), c.isDigit = true := fun _ h => absurd h List.not_mem_nil
  have hread := readNumber_numberText (whole_decimalDigits n) hnone
    (fun x (hx : x ∈ none) => by cases hx) hrest negative
  have htext : numberText (decimalDigits n) [] none = decimalDigits n := List.append_nil _
  have hvalue : Nat.ofDigitChars 10 (decimalDigits n) 0 = n := Nat.ofDigitChars_ten_toDigits
  rw [htext, hvalue] at hread
  rw [hread]
  show (if maxIntegerDigits < (decimalDigits n).length then _ else _) = _
  rw [if_neg (not_lt.mpr hn)]

/-! ## 5. The two layouts -/

open Binary64

/-- The text is that of a floating-point number with the value of a decimal. -/
def IsDecimal (text : List Char) (n : Nat) (e : Int) : Prop :=
  ∃ whole fraction exponent, text = numberText whole fraction exponent ∧ Whole whole ∧
    (∀ c ∈ fraction, c.isDigit = true) ∧
    (∀ x ∈ exponent, x.2 ≠ [] ∧ ∀ c ∈ x.2, c.isDigit = true) ∧
    (fraction.isEmpty && exponent.isNone) = false ∧
    ∀ s, ofDecimal s (Nat.ofDigitChars 10 (whole ++ fraction) 0)
      ((exponentValue exponent).getD 0 - fraction.length) = ofDecimal s n e

/-- **Such a text is read as the number nearest to the decimal.** -/
theorem IsDecimal.readNumber {text : List Char} {n : Nat} {e : Int} (h : IsDecimal text n e)
    (hrest : EndsNumber rest) (negative : Bool) :
    readNumber negative (text ++ rest) = .ok (.float (ofDecimal negative n e), rest) := by
  obtain ⟨whole, fraction, exponent, rfl, hwhole, hfraction, hexponent, hsome, hvalue⟩ := h
  rw [readNumber_numberText hwhole hfraction hexponent hrest, hsome, if_neg Bool.false_ne_true,
    hvalue]

/-- Digits without zeros before them are the digits before a point. -/
theorem whole_append {n : Nat} (hn : n ≠ 0) {ds : List Char} (hds : ∀ c ∈ ds, c.isDigit = true) :
    Whole (decimalDigits n ++ ds) := by
  refine ⟨fun c hc => ?_, List.append_ne_nil_of_left_ne_nil (decimalDigits_ne_nil n) ds, .inr ?_⟩
  · rcases List.mem_append.mp hc with hc | hc
    · exact isDigit_of_mem hc
    · exact hds c hc
  · rw [List.head?_append_of_ne_nil _ (decimalDigits_ne_nil n)]
    exact head_decimalDigits hn

theorem whole_take {n k : Nat} (hn : n ≠ 0) (hk : 0 < k) : Whole ((decimalDigits n).take k) := by
  have hne := decimalDigits_ne_nil n
  refine ⟨fun c hc => isDigit_of_mem (List.mem_of_mem_take hc), ?_, .inr ?_⟩
  · rw [Ne, List.take_eq_nil_iff, not_or]
    exact ⟨hk.ne', hne⟩
  · rw [List.head?_take, if_neg hk.ne']
    exact head_decimalDigits hn

theorem isDigit_replicate {k : Nat} : ∀ c ∈ List.replicate k '0', c.isDigit = true := by
  intro c hc
  rw [List.eq_of_mem_replicate hc]
  rfl

theorem ofDigitChars_decimalDigits (n : Nat) : Nat.ofDigitChars 10 (decimalDigits n) 0 = n :=
  Nat.ofDigitChars_ten_toDigits

theorem numberText_point {whole fraction : List Char} (h : fraction ≠ []) :
    numberText whole fraction none = whole ++ '.' :: fraction := by
  unfold numberText fractionText
  rw [List.isEmpty_eq_false_iff.mpr h, if_neg Bool.false_ne_true]
  exact congrArg (whole ++ ·) (List.append_nil _)

/-- A point before all digits. -/
theorem isDecimal_before (n k : Nat) :
    IsDecimal ('0' :: '.' :: List.replicate k '0' ++ decimalDigits n) n
      (-(k : Int) - (decimalDigits n).length) := by
  have hne : List.replicate k '0' ++ decimalDigits n ≠ [] :=
    List.append_ne_nil_of_right_ne_nil _ (decimalDigits_ne_nil n)
  refine ⟨['0'], List.replicate k '0' ++ decimalDigits n, none, ?_, whole_decimalDigits 0,
    fun c hc => ?_, fun _ h => by (cases h), ?_, fun s => ?_⟩
  · rw [numberText_point hne]
    rfl
  · rcases List.mem_append.mp hc with hc | hc
    · exact isDigit_replicate c hc
    · exact isDigit_of_mem hc
  · rw [List.isEmpty_eq_false_iff.mpr hne]
    rfl
  · have hvalue : Nat.ofDigitChars 10 (['0'] ++ (List.replicate k '0' ++ decimalDigits n)) 0 = n := by
      rw [Nat.ofDigitChars_append, Nat.ofDigitChars_append, Nat.ofDigitChars_replicate_zero]
      exact ofDigitChars_decimalDigits n
    rw [hvalue, List.length_append, List.length_replicate]
    congr 1
    push_cast
    show (0 : Int) - _ = _
    omega

/-- A point behind all digits. -/
theorem isDecimal_behind {n : Nat} (hn : n ≠ 0) (k : Nat) :
    IsDecimal (decimalDigits n ++ List.replicate k '0' ++ ['.', '0']) n k := by
  refine ⟨decimalDigits n ++ List.replicate k '0', ['0'], none, (numberText_point (by simp)).symm,
    whole_append hn isDigit_replicate, fun c hc => ?_, fun _ h => by (cases h), rfl, fun s => ?_⟩
  · rw [List.mem_singleton.mp hc]
    rfl
  · have hvalue : Nat.ofDigitChars 10 (decimalDigits n ++ List.replicate k '0' ++ ['0']) 0 =
        n * 10 ^ (k + 1) := by
      rw [List.append_assoc, ← List.replicate_succ', Nat.ofDigitChars_append,
        ofDigitChars_decimalDigits, Nat.ofDigitChars_replicate_zero, Nat.mul_comm]
    have hexponent : (exponentValue none).getD 0 - ((['0'] : List Char).length : Int) =
        (k : Int) - (k + 1 : Nat) := by
      show (0 : Int) - 1 = _
      omega
    rw [hvalue, hexponent, ofDecimal_mul_pow s hn]

/-- A point between digits. -/
theorem isDecimal_between {n k : Nat} (hn : n ≠ 0) (hk : 0 < k)
    (hlength : k < (decimalDigits n).length) :
    IsDecimal ((decimalDigits n).take k ++ '.' :: (decimalDigits n).drop k) n
      ((k : Int) - (decimalDigits n).length) := by
  have hne : (decimalDigits n).drop k ≠ [] := by
    rw [Ne, List.drop_eq_nil_iff]
    omega
  refine ⟨(decimalDigits n).take k, (decimalDigits n).drop k, none, (numberText_point hne).symm,
    whole_take hn hk, fun c hc => isDigit_of_mem (List.mem_of_mem_drop hc), fun _ h => by (cases h),
    ?_, fun s => ?_⟩
  · rw [List.isEmpty_eq_false_iff.mpr hne]
    rfl
  · rw [List.take_append_drop, ofDigitChars_decimalDigits, List.length_drop]
    congr 1
    show (0 : Int) - _ = _
    omega

/-- **Positional notation keeps the value.** -/
theorem isDecimal_positional {n : Nat} (hn : n ≠ 0) (point : Int) :
    IsDecimal (positional (decimalDigits n) point) n (point - (decimalDigits n).length) := by
  unfold positional
  dsimp only
  by_cases hpoint : point ≤ 0
  · rw [if_pos hpoint]
    have h := isDecimal_before n (-point).toNat
    rw [Int.toNat_of_nonneg (by omega), neg_neg] at h
    exact h
  rw [if_neg hpoint]
  have hnat : ((point.toNat : Nat) : Int) = point := Int.toNat_of_nonneg (by omega)
  by_cases hlength : (decimalDigits n).length ≤ point.toNat
  · rw [if_pos hlength]
    have h := isDecimal_behind hn (point.toNat - (decimalDigits n).length)
    rw [Nat.cast_sub hlength, hnat] at h
    exact h
  · rw [if_neg hlength]
    have h := isDecimal_between hn (by omega) (not_le.mp hlength)
    rw [hnat] at h
    exact h

/-- The digits of an exponent, filled up with zeros. -/
theorem exponentValue_digits (k : Nat) (e : Int) :
    exponentValue (some (decide (e < 0), List.replicate k '0' ++ decimalDigits e.natAbs)) =
      some e := by
  have hvalue : Nat.ofDigitChars 10 (List.replicate k '0' ++ decimalDigits e.natAbs) 0 =
      e.natAbs := by
    rw [Nat.ofDigitChars_append, Nat.ofDigitChars_replicate_zero]
    exact ofDigitChars_decimalDigits e.natAbs
  unfold exponentValue
  dsimp only
  rw [hvalue]
  congr 1
  by_cases he : e < 0
  · rw [decide_eq_true he, if_pos rfl]
    omega
  · rw [decide_eq_false he, if_neg Bool.false_ne_true]
    omega

/-- **Notation with an exponent keeps the value.** -/
theorem isDecimal_scientific (layout : Layout) {n : Nat} (hn : n ≠ 0) (point : Int) :
    IsDecimal (scientific layout (decimalDigits n) point) n
      (point - (decimalDigits n).length) := by
  have hlength := length_decimalDigits_pos n
  refine ⟨(decimalDigits n).take 1, (decimalDigits n).drop 1,
    some (decide (point - 1 < 0), List.replicate
      (layout.exponentWidth - (decimalDigits (point - 1).natAbs).length) '0' ++
        decimalDigits (point - 1).natAbs), ?_, whole_take hn Nat.one_pos,
    fun c hc => isDigit_of_mem (List.mem_of_mem_drop hc), fun x hx => ?_, Bool.and_false _,
    fun s => ?_⟩
  · have hfraction : (if (decimalDigits n).length ≤ 1 then []
        else '.' :: (decimalDigits n).drop 1) = fractionText ((decimalDigits n).drop 1) := by
      unfold fractionText
      refine if_congr ?_ rfl rfl
      rw [List.isEmpty_iff, List.drop_eq_nil_iff]
    unfold scientific
    dsimp only
    rw [hfraction]
    simp [numberText, exponentText]
  · obtain rfl := Option.some.inj hx
    refine ⟨List.append_ne_nil_of_right_ne_nil _ (decimalDigits_ne_nil _), fun c hc => ?_⟩
    rcases List.mem_append.mp hc with hc | hc
    · exact isDigit_replicate c hc
    · exact isDigit_of_mem hc
  · rw [List.take_append_drop, ofDigitChars_decimalDigits, exponentValue_digits, List.length_drop]
    congr 1
    show point - 1 - _ = _
    omega

/-! ## 6. Floating-point numbers -/

/-- The text of a number that is finite, without its sign. -/
def finiteText (layout : Layout) (m : Nat) (e : Int) : List Char :=
  if m = 0 then ['0', '.', '0']
  else
    let (digits, point) := (shortest m e).normalized
    if layout.lowestPoint < point && point ≤ layout.highestPoint then positional digits point
    else scientific layout digits point

theorem textIn_finite (layout : Layout) (s : Bool) (m : Nat) (e : Int) :
    ((finite s m e).textIn layout).toList =
      if s then '-' :: finiteText layout m e else finiteText layout m e := by
  show (String.ofList (if s then '-' :: finiteText layout m e else finiteText layout m e)).toList = _
  rw [String.toList_ofList]

/-- The text of a number begins with a digit. -/
theorem IsDecimal.head {text : List Char} {n : Nat} {e : Int} (h : IsDecimal text n e) :
    ∃ c rest, text = c :: rest ∧ c.isDigit = true := by
  obtain ⟨whole, fraction, exponent, rfl, hwhole, _⟩ := h
  obtain ⟨c, cs, rfl⟩ := List.exists_cons_of_ne_nil hwhole.ne_nil
  exact ⟨c, _, rfl, hwhole.digits c List.mem_cons_self⟩

theorem IsDecimal.not_mem {text : List Char} {n : Nat} {e : Int} (h : IsDecimal text n e) :
    '\r' ∉ text := by
  obtain ⟨whole, fraction, exponent, rfl, hwhole, hfraction, hexponent, _⟩ := h
  have hdigits : ∀ {ds : List Char}, (∀ c ∈ ds, c.isDigit = true) → '\r' ∉ ds := fun hds hmem =>
    absurd (hds _ hmem) (by decide)
  unfold numberText
  rw [List.mem_append, List.mem_append, not_or, not_or]
  refine ⟨hdigits hwhole.digits, ?_, ?_⟩
  · unfold fractionText
    split
    · exact List.not_mem_nil
    · rw [List.mem_cons, not_or]
      exact ⟨by decide, hdigits hfraction⟩
  · cases exponent with
    | none => exact List.not_mem_nil
    | some x =>
        show '\r' ∉ 'e' :: (if x.1 then '-' else '+') :: x.2
        rw [List.mem_cons, List.mem_cons, not_or, not_or]
        exact ⟨by decide, by cases x.1 <;> decide, hdigits (hexponent x rfl).2⟩

/-- **The text of a number has a decimal that rounds to the number.** -/
theorem exists_isDecimal (layout : Layout) {m : Nat} {e : Int} (h : Fits m e) : ∃ n f,
    IsDecimal (finiteText layout m e) n f ∧ ∀ s, ofDecimal s n f = .finite s m e := by
  unfold finiteText
  by_cases hm : m = 0
  · have he : e = minExponent := h.full.resolve_left (by omega)
    subst hm he
    rw [if_pos rfl]
    refine ⟨0, -1, ⟨['0'], ['0'], none, rfl, whole_decimalDigits 0, ?_, fun _ h => by (cases h), rfl,
      fun s => rfl⟩, fun s => rfl⟩
    exact List.forall_mem_singleton.mpr rfl
  · rw [if_neg hm]
    have hshortest := ofDecimal_shortest h hm
    have hdigits : (shortest m e).digits ≠ 0 := by
      intro hzero
      rw [hzero] at hshortest
      cases hshortest
      exact hm rfl
    obtain ⟨n, k, hn, hvalue, hnormalized⟩ := normalized_spec _ hdigits
    have hreads : ∀ s, ofDecimal s n ((shortest m e).exponent + k) = .finite s m e := by
      intro s
      rw [← ofDecimal_mul_pow s hn k, ← hvalue, Int.add_sub_cancel, ofDecimal_sign, hshortest]
      rfl
    refine ⟨n, (shortest m e).exponent + k, ?_, hreads⟩
    rw [hnormalized]
    dsimp only
    have hpositional := isDecimal_positional hn
      ((shortest m e).exponent + k + (decimalDigits n).length)
    have hscientific := isDecimal_scientific layout hn
      ((shortest m e).exponent + k + (decimalDigits n).length)
    rw [Int.add_sub_cancel] at hpositional hscientific
    split
    · exact hpositional
    · exact hscientific

/-- **A floating-point number is read back.** -/
theorem readNumber_finiteText (layout : Layout) {m : Nat} {e : Int} (h : Fits m e)
    (negative : Bool) (rest : List Char) (hrest : EndsNumber rest) :
    readNumber negative (finiteText layout m e ++ rest) =
      .ok (.float (.finite negative m e), rest) := by
  obtain ⟨n, f, htext, hreads⟩ := exists_isDecimal layout h
  rw [htext.readNumber hrest, hreads]

theorem head_finiteText (layout : Layout) {m : Nat} {e : Int} (h : Fits m e) :
    ∃ c rest, finiteText layout m e = c :: rest ∧ c.isDigit = true := by
  obtain ⟨n, f, htext, _⟩ := exists_isDecimal layout h
  exact htext.head

theorem not_mem_finiteText (layout : Layout) {m : Nat} {e : Int} (h : Fits m e) :
    '\r' ∉ finiteText layout m e := by
  obtain ⟨n, f, htext, _⟩ := exists_isDecimal layout h
  exact htext.not_mem

end DomainGen.Json
