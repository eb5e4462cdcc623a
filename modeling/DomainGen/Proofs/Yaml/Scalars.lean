import DomainGen.Proofs.Text.Case
import DomainGen.Proofs.Yaml.Integers

/-!
# Plain scalars that denote nothing

A plain scalar shows its kind by its form, and what has the form of a typed value need not denote one.
A date can be in no month. An integer can be a mark of a base without digits, or too long to be read. A
decimal in base sixty can have so many places that the first one weighs more than any decimal.
Everything else that has the form of a typed value denotes one.

* `DecimalForm`, `decimalForm_of_isDecimalForm` : the forms of decimals;
* `maxPlaces`, `sumSixtieths_one` : **how many places a number can have**; `readFloat_eq_error` : **which
  decimals are none**;
* `Stamp.isPossible`, `readMoment_eq_error` : **which dates and moments are none**;
* `PlainFault` : what makes a plain scalar denote nothing, with the fault it is;
* `readScalar_ofPlain` : **exactly then a plain scalar fails, and with this fault**.
-/

namespace DomainGen.Yaml

open Text

variable {s : List Char}

/-! ## 1. Forms of decimals -/

/-- The form of an exponent, or nothing. -/
inductive ExponentForm : List Char → Prop where
  | none : ExponentForm []
  | signed {letter sign : Char} {digits : List Char} (hletter : letter = 'e' ∨ letter = 'E')
      (hsign : sign = '-' ∨ sign = '+') (hne : digits ≠ []) (hdigits : ∀ c ∈ digits, c.isDigit = true) :
      ExponentForm (letter :: sign :: digits)

/-- The form of a decimal: one of the words, digits around a point, or places in base sixty. -/
inductive DecimalForm : List Char → Prop where
  | infinity {sign word : List Char} (hsign : IsSign sign)
      (hword : word ∈ [".inf", ".Inf", ".INF"].map String.toList) : DecimalForm (sign ++ word)
  | nan {word : List Char} (hword : word ∈ [".nan", ".NaN", ".NAN"].map String.toList) :
      DecimalForm word
  | point {sign whole fraction exponent : List Char} (hsign : IsSign sign)
      (hwhole : ∀ c ∈ whole, isDigitOrGap c = true) (hfraction : ∀ c ∈ fraction, isDigitOrGap c = true)
      (hexponent : ExponentForm exponent)
      (hdigit : withoutGaps whole ≠ [] ∨ withoutGaps fraction ≠ []) :
      DecimalForm (sign ++ (whole ++ '.' :: (fraction ++ exponent)))
  | sixtieths {sign whole middle fraction : List Char} (hsign : IsSign sign)
      (hwhole : ∀ c ∈ whole, isDigitOrGap c = true) (hdigit : withoutGaps whole ≠ [])
      (hmiddle : ∀ p ∈ splitAt ':' middle, isSixtieth p = true)
      (hfraction : ∀ c ∈ fraction, isDigitOrGap c = true) :
      DecimalForm (sign ++ (whole ++ ':' :: (middle ++ '.' :: fraction)))

theorem exponentForm_of_isExponentForm (h : isExponentForm s = true) : ExponentForm s := by
  unfold isExponentForm at h
  split at h
  · exact .none
  · simp only [Bool.and_eq_true, Bool.or_eq_true, beq_iff_eq, Bool.not_eq_true',
      List.isEmpty_eq_false_iff, List.all_eq_true] at h
    exact .signed h.1.1.1 h.1.1.2 h.1.2 h.2
  · cases h

theorem exists_fraction (h : isFractionForm s = true) : ∃ fraction exponent, s = fraction ++ exponent ∧
    (∀ c ∈ fraction, isDigitOrGap c = true) ∧ ExponentForm exponent :=
  ⟨s.takeWhile isDigitOrGap, s.dropWhile isDigitOrGap, List.takeWhile_append_dropWhile.symm,
    List.all_eq_true.mp List.all_takeWhile, exponentForm_of_isExponentForm h⟩

/-- A text that begins with a digit, up to where digits and gaps end. -/
theorem exists_whole {d : Char} (more : List Char) (hd : d.isDigit = true) :
    ∃ whole, (d :: more).takeWhile isDigitOrGap = whole ∧
      d :: more = whole ++ (d :: more).drop whole.length ∧
      (∀ c ∈ whole, isDigitOrGap c = true) ∧ withoutGaps whole ≠ [] := by
  refine ⟨_, rfl, ?_, List.all_eq_true.mp List.all_takeWhile, ?_⟩
  · have htake := List.prefix_iff_eq_take.mp (List.takeWhile_prefix isDigitOrGap (l := d :: more))
    calc d :: more
        = (d :: more).take ((d :: more).takeWhile isDigitOrGap).length ++
            (d :: more).drop ((d :: more).takeWhile isDigitOrGap).length :=
          (List.take_append_drop _ _).symm
      _ = _ := by rw [← htake]
  · have hfirst : isDigitOrGap d = true := Bool.or_eq_true_iff.mpr (.inl hd)
    rw [List.takeWhile_cons_of_pos hfirst, withoutGaps_cons (ne_of_isDigit hd (by decide))]
    exact List.cons_ne_nil _ _

theorem decimalForm_of_isDecimalForm (h : isDecimalForm s = true) : DecimalForm s := by
  obtain ⟨sign, hsign, hs⟩ := exists_splitSign s
  unfold isDecimalForm at h
  simp only [Bool.or_eq_true] at h
  rcases h with ((h | h) | h) | h
  · split at h
    · rename_i d more hbody
      obtain ⟨hd, h⟩ := Bool.and_eq_true_iff.mp h
      obtain ⟨whole, hspan, hwhole, hgaps, hne⟩ := exists_whole more hd
      rw [hbody, hspan] at h
      rw [hs, hbody, hwhole]
      split at h
      · rename_i rest hrest
        obtain ⟨fraction, exponent, rfl, hfraction, hexponent⟩ := exists_fraction h
        rw [hrest]
        exact .point hsign hgaps hfraction hexponent (.inl hne)
      · rename_i rest hrest
        obtain ⟨hmiddle, h⟩ := Bool.and_eq_true_iff.mp h
        rw [hrest, ← List.takeWhile_append_dropWhile (p := (· != '.')) (l := rest)]
        split at h
        · rename_i fraction hfraction
          rw [hfraction]
          exact .sixtieths hsign hgaps hne (List.all_eq_true.mp hmiddle) (List.all_eq_true.mp h)
        · cases h
      · cases h
    · cases h
  · have hword := List.mem_map_of_mem (f := String.toList) (List.contains_iff_mem.mp h)
    rw [String.toList_ofList] at hword
    rw [hs]
    exact .infinity hsign hword
  · have hword := List.mem_map_of_mem (f := String.toList) (List.contains_iff_mem.mp h)
    rw [String.toList_ofList] at hword
    exact .nan hword
  · split at h
    · rename_i c rest
      obtain ⟨hc, h⟩ := Bool.and_eq_true_iff.mp h
      obtain ⟨fraction, exponent, rfl, hfraction, hexponent⟩ := exists_fraction h
      show DecimalForm ([] ++ ([] ++ '.' :: ((c :: fraction) ++ exponent)))
      refine .point (.inl rfl) (fun _ h => absurd h List.not_mem_nil) ?_ hexponent (.inr ?_)
      · exact List.forall_mem_cons.mpr ⟨Bool.or_eq_true_iff.mpr (.inl hc), hfraction⟩
      · rw [withoutGaps_cons (ne_of_isDigit hc (by decide))]
        exact List.cons_ne_nil _ _
    · cases h

/-! ## 2. Reading decimals -/

theorem map_toLower_digits (h : ∀ c ∈ s, c.isDigit = true) : s.map Char.toLower = s := by
  have hall : ∀ n < 128, (Char.ofNat n).isDigit = true → (Char.ofNat n).toLower = Char.ofNat n := by
    decide +kernel
  exact (List.map_congr_left fun c hc => of_ascii (P := fun c => c.isDigit = true → c.toLower = c) hall
    (isAscii_of_isDigit (h c hc)) (h c hc)).trans (List.map_id s)

theorem map_toLower_sign {sign : List Char} (h : IsSign sign) : sign.map Char.toLower = sign := by
  rcases h with rfl | rfl | rfl
  · rfl
  · rfl
  · rfl

/-- What an exponent becomes before it is read. -/
structure ReadableExponent (exponent : List Char) : Prop where
  read : (readExponent? exponent).isSome = true
  head : ∀ c ∈ exponent.head?, digitValue? c = none
  inner : ∀ c ∈ exponent, isMargin c = false
  plain : ':' ∉ exponent

theorem readExponent?_signed {sign : Char} {digits : List Char} (hsign : sign = '-' ∨ sign = '+')
    (hne : digits ≠ []) (hdigits : ∀ c ∈ digits, c.isDigit = true) :
    (readExponent? ('e' :: sign :: digits)).isSome = true := by
  obtain ⟨vs, hvs, hempty⟩ := takeDigits_append [] (fun _ hc => nomatch hc) hdigits
  rw [List.append_nil] at hvs
  have hsome : vs ≠ [] := by
    rintro rfl
    exact hne (List.isEmpty_iff.mp hempty.symm)
  obtain ⟨v, vs, rfl⟩ := List.exists_cons_of_ne_nil hsome
  rcases hsign with rfl | rfl
  · simp [readExponent?, splitSign, hvs]
  · simp [readExponent?, splitSign, hvs]

theorem readable_exponent {exponent : List Char} (h : ExponentForm exponent) :
    IsAscii exponent ∧ withoutGaps exponent = exponent ∧
      ReadableExponent (exponent.map Char.toLower) := by
  cases h with
  | none =>
      have hnone (c : Char) : c ∉ ([] : List Char) := List.not_mem_nil
      exact ⟨fun c hc => absurd hc (hnone c), rfl, rfl, (fun _ hc => nomatch hc),
        fun c hc => absurd hc (hnone c), hnone ':'⟩
  | @signed letter sign digits hletter hsign hne hdigits =>
      have hsmall : letter.toLower = 'e' ∧ letter.toNat < 128 ∧ letter ≠ '_' := by
        rcases hletter with rfl | rfl
        · decide
        · decide
      have hmark : sign.toLower = sign ∧ sign.toNat < 128 ∧ sign ≠ '_' ∧ isMargin sign = false ∧
          sign ≠ ':' := by
        rcases hsign with rfl | rfl
        · decide
        · decide
      refine ⟨?_, ?_, ?_⟩
      · exact isAscii_cons.mpr ⟨hsmall.2.1, isAscii_cons.mpr ⟨hmark.2.1,
          fun c hc => isAscii_of_isDigit (hdigits c hc)⟩⟩
      · rw [withoutGaps_cons hsmall.2.2, withoutGaps_cons hmark.2.2.1, withoutGaps_of_digits hdigits]
      · rw [List.map_cons, List.map_cons, hsmall.1, hmark.1, map_toLower_digits hdigits]
        have hhead : ∀ c ∈ some 'e', digitValue? c = none := by
          rintro _ ⟨⟩
          decide
        refine ⟨readExponent?_signed hsign hne hdigits, hhead, ?_, ?_⟩
        · exact List.forall_mem_cons.mpr ⟨by decide, List.forall_mem_cons.mpr
            ⟨hmark.2.2.2.1, fun c hc => (countsIn_ten (hdigits c hc)).2.2.2.1⟩⟩
        · intro h
          rcases List.mem_cons.mp h with h | h
          · exact absurd h (by decide)
          · rcases List.mem_cons.mp h with h | h
            · exact hmark.2.2.2.2 h.symm
            · exact ne_of_isDigit (hdigits _ h) (by decide) rfl

section Reading

variable {body : List Char} (h : (splitSign (lower (withoutGaps s))).2 = body)
include h

theorem ne_nil_of_splitSign (hne : body ≠ []) : ¬ (lower (withoutGaps s)).isEmpty = true := by
  intro hempty
  rw [List.isEmpty_iff.mp hempty] at h
  exact hne h.symm

/-- A number without words is read by its places, and has its sign put before it. -/
theorem readFloat_eq (hne : body ≠ []) (hnan : body ≠ ['.', 'n', 'a', 'n'])
    (hinf : body ≠ ['.', 'i', 'n', 'f']) : ∃ sign : Binary64 → Binary64, readFloat s =
      (if body.contains ':' then
        orBadValue ((splitAt ':' body).mapM readDecimal?) >>= fun parts =>
          sumSixtieths 1 (.zero false) parts.reverse
      else orBadValue (readDecimal? body)).map fun m => .float (sign m) := by
  have hword {word : List Char} (hw : body ≠ word) : String.ofList body ≠ String.ofList word :=
    fun he => hw (String.ofList_injective he)
  have hfull := ne_nil_of_splitSign h hne
  unfold withoutGaps at h hfull
  unfold readFloat
  dsimp only
  rw [if_neg hfull]
  generalize splitSign (lower (s.filter (· != '_'))) = signed at h
  obtain ⟨negative, _⟩ := signed
  cases h
  refine ⟨fun m => if negative then m.neg else m, ?_⟩
  dsimp only
  split
  · rename_i hnan'
    exact absurd (beq_iff_eq.mp hnan') (hword hnan)
  · split
    · rename_i hinf'
      exact absurd hinf' (hword hinf)
    · split
      · cases orBadValue ((splitAt ':' _).mapM readDecimal?) with
        | error e => rfl
        | ok parts => rfl
      · rfl

theorem readFloat_ne_error (hne : body ≠ []) (hcolon : ':' ∉ body)
    (hread : (readDecimal? body).isSome = true) (e : ReadError) : readFloat s ≠ .error e := by
  obtain ⟨m, hm⟩ := Option.isSome_iff_exists.mp hread
  have hword {word : List Char} (hw : readDecimal? word = none) : body ≠ word := by
    rintro rfl
    rw [hw] at hm
    cases hm
  obtain ⟨sign, hsign⟩ := readFloat_eq h hne (hword (by decide)) (hword (by decide))
  rw [hsign, if_neg (fun hc => hcolon (List.contains_iff_mem.mp hc)), hm]
  intro he
  cases he

theorem readFloat_sixtieths {parts : List Binary64} (hcolon : ':' ∈ body)
    (hparts : (splitAt ':' body).mapM readDecimal? = some parts) {e : ReadError} :
    readFloat s = .error e ↔ sumSixtieths 1 (.zero false) parts.reverse = .error e := by
  have hword {word : List Char} (hw : ':' ∉ word) : body ≠ word := fun he => hw (he ▸ hcolon)
  obtain ⟨sign, hsign⟩ := readFloat_eq h (List.ne_nil_of_mem hcolon) (hword (by decide))
    (hword (by decide))
  rw [hsign, if_pos (List.contains_iff_mem.mpr hcolon), hparts]
  exact except_map_eq_error

end Reading

/-! ## 3. Weights in base sixty -/

/-- The number of places in base sixty whose weights are decimals. -/
def maxPlaces : Nat := 174

theorem weights_finite : ∀ i < maxPlaces, (Binary64.ofInt? ((60 ^ i : Nat) : Int)).isSome = true := by
  decide +kernel

theorem weight_infinite : Binary64.ofInt? ((60 ^ maxPlaces : Nat) : Int) = none := by decide +kernel

theorem ofInt?_eq_none {i : Int} :
    Binary64.ofInt? i = none ↔ ∃ negative, Binary64.ofInt i = .infinity negative := by
  unfold Binary64.ofInt?
  constructor
  · intro h
    split at h
    · exact ⟨_, ‹_›⟩
    · cases h
  · rintro ⟨negative, h⟩
    rw [h]

/-- A sum fails exactly if one of its weights is too large. -/
theorem sumSixtieths_eq_error {e : ReadError} : ∀ {weight : Nat} {sum : Binary64} {parts : List Binary64},
    sumSixtieths weight sum parts = .error e ↔ (∃ i < parts.length,
      Binary64.ofInt? ((weight * 60 ^ i : Nat) : Int) = none) ∧ e = .fault .overflow
  | _, _, [] => by
      constructor
      · intro h
        cases h
      · rintro ⟨⟨i, hi, _⟩, _⟩
        exact absurd hi (Nat.not_lt_zero i)
  | weight, sum, d :: rest => by
      have hweight : Binary64.ofInt? ((weight * 60 ^ 0 : Nat) : Int) = Binary64.ofInt? weight := by
        rw [Nat.pow_zero, Nat.mul_one]
      have hstep (i : Nat) : weight * 60 ^ (i + 1) = weight * 60 * 60 ^ i := by
        rw [Nat.pow_succ', Nat.mul_assoc]
      unfold sumSixtieths
      split
      · rename_i hinfinite
        have hnone := hweight.trans (ofInt?_eq_none.mpr ⟨_, hinfinite⟩)
        constructor
        · intro h
          exact ⟨⟨0, Nat.succ_pos _, hnone⟩, (Except.error.inj h).symm⟩
        · rintro ⟨_, rfl⟩
          rfl
      · rename_i hfinite
        rw [sumSixtieths_eq_error]
        refine and_congr_left fun _ => ⟨?_, ?_⟩
        · rintro ⟨i, hi, h⟩
          exact ⟨i + 1, Nat.succ_lt_succ hi, hstep i ▸ h⟩
        · rintro ⟨i, hi, h⟩
          cases i with
          | zero =>
              obtain ⟨sign, hinfinite⟩ := ofInt?_eq_none.mp (hweight.symm.trans h)
              exact absurd hinfinite (hfinite sign)
          | succ i => exact ⟨i, Nat.lt_of_succ_lt_succ hi, hstep i ▸ h⟩

theorem sumSixtieths_one {sum : Binary64} {parts : List Binary64} {e : ReadError} :
    sumSixtieths 1 sum parts = .error e ↔ maxPlaces < parts.length ∧ e = .fault .overflow := by
  rw [sumSixtieths_eq_error]
  refine and_congr_left fun _ => ⟨?_, fun h => ⟨maxPlaces, h, ?_⟩⟩
  · rintro ⟨i, hi, h⟩
    rw [Nat.one_mul] at h
    by_contra hfew
    have hfinite := weights_finite i (by omega)
    rw [h] at hfinite
    cases hfinite
  · rw [Nat.one_mul]
    exact weight_infinite

/-! ## 4. Decimals that are none -/

/-- The words for infinity and for not-a-number are decimals. -/
theorem readFloat_words :
    (∀ sign ∈ [[], ['-'], ['+']], ∀ word ∈ [".inf", ".Inf", ".INF"].map String.toList,
      failure? (readFloat (sign ++ word)) = none ∧ ':' ∉ sign ++ word) ∧
    ∀ word ∈ [".nan", ".NaN", ".NAN"].map String.toList,
      failure? (readFloat word) = none ∧ ':' ∉ word := by
  decide +kernel

theorem isAscii_sign {sign : List Char} (h : IsSign sign) : IsAscii sign := by
  rcases h with rfl | rfl | rfl
  · decide
  · decide
  · decide

/-- A sign and digits before a point or a colon, as they are read. -/
theorem splitSign_lower {sign whole : List Char} (rest rest' : List Char) {mark : Char} (hsign : IsSign sign)
    (hwhole : ∀ c ∈ whole, isDigitOrGap c = true) (hmark : mark = '.' ∨ mark = ':')
    (hascii : IsAscii (withoutGaps rest)) (hrest : (withoutGaps rest).map Char.toLower = rest') :
    (splitSign (lower (withoutGaps (sign ++ (whole ++ mark :: rest))))).2 =
      withoutGaps whole ++ mark :: rest' := by
  have hdigits : ∀ c ∈ withoutGaps whole, c.isDigit = true :=
    fun _ hc => isDigit_of_mem_withoutGaps hwhole hc
  have hplain : mark ≠ '_' ∧ mark.toNat < 128 ∧ mark.toLower = mark ∧ mark ≠ '-' ∧ mark ≠ '+' := by
    rcases hmark with rfl | rfl
    · decide
    · decide
  rw [withoutGaps_append, withoutGaps_append, withoutGaps_cons hplain.1, withoutGaps_sign hsign,
    lower_ascii, List.map_append, List.map_append, List.map_cons, map_toLower_sign hsign,
    map_toLower_digits hdigits, hplain.2.2.1, hrest]
  · refine splitSign_append hsign fun c hc => ?_
    cases hgaps : withoutGaps whole with
    | nil =>
        rw [hgaps] at hc
        cases hc
        exact hplain.2.2.2
    | cons d more =>
        rw [hgaps] at hc hdigits
        cases hc
        have hd := hdigits c List.mem_cons_self
        exact ⟨ne_of_isDigit hd (by decide), ne_of_isDigit hd (by decide)⟩
  · exact isAscii_append.mpr ⟨isAscii_sign hsign, isAscii_append.mpr
      ⟨fun c hc => isAscii_of_isDigit (hdigits c hc), isAscii_cons.mpr ⟨hplain.2.1, hascii⟩⟩⟩

/-- Digits and gaps hold no colon. -/
theorem colon_not_mem (h : ∀ c ∈ s, isDigitOrGap c = true) : ':' ∉ s :=
  fun hc => absurd (h ':' hc) (by decide)

theorem colon_not_mem_sign {sign : List Char} (h : IsSign sign) : ':' ∉ sign := by
  rcases h with rfl | rfl | rfl
  · decide
  · decide
  · decide

/-- A text without a colon, that is read. -/
theorem eq_error_iff_of_read {e : ReadError} (hcolon : ':' ∉ s) (hread : readFloat s ≠ .error e) :
    readFloat s = .error e ↔ maxPlaces ≤ s.count ':' ∧ e = .fault .overflow := by
  refine iff_of_false hread ?_
  rw [List.count_eq_zero.mpr hcolon]
  exact fun h => absurd h.1 (by decide)

theorem ne_error_of_failure? {α ε : Type} {x : Except ε α} (h : failure? x = none) (e : ε) :
    x ≠ .error e := by
  rintro rfl
  cases h

/-- The places after the first one, digits and colons, are read as they stand. -/
theorem middle_plain {middle : List Char} (hmiddle : ∀ p ∈ splitAt ':' middle, isSixtieth p = true) :
    withoutGaps middle = middle ∧ middle.map Char.toLower = middle ∧ IsAscii middle := by
  have hchars : ∀ c ∈ middle, c = ':' ∨ c.isDigit = true := fun c hc =>
    (eq_or_mem_splitAt hc).imp id fun ⟨p, hp, hmem⟩ => (digits_of_isSixtieth (hmiddle p hp)).2.2 c hmem
  refine ⟨List.filter_eq_self.mpr fun c hc => ?_, ?_, fun c hc => ?_⟩
  · rcases hchars c hc with rfl | hdigit
    · decide
    · exact bne_iff_ne.mpr (ne_of_isDigit hdigit (by decide))
  · refine (List.map_congr_left fun c hc => ?_).trans (List.map_id middle)
    rcases hchars c hc with rfl | hdigit
    · rfl
    · exact (List.cons.inj (map_toLower_digits (List.forall_mem_singleton.mpr hdigit))).1
  · rcases hchars c hc with rfl | hdigit
    · decide
    · exact isAscii_of_isDigit hdigit

section Forms

variable {sign whole fraction : List Char} (hsign : IsSign sign)
  (hwhole : ∀ c ∈ whole, isDigitOrGap c = true) (hfraction : ∀ c ∈ fraction, isDigitOrGap c = true)
include hsign hwhole hfraction

theorem readFloat_point {exponent : List Char} (hexponent : ExponentForm exponent)
    (hdigit : withoutGaps whole ≠ [] ∨ withoutGaps fraction ≠ []) {e : ReadError} :
    readFloat (sign ++ (whole ++ '.' :: (fraction ++ exponent))) = .error e ↔
      maxPlaces ≤ (sign ++ (whole ++ '.' :: (fraction ++ exponent))).count ':' ∧
        e = .fault .overflow := by
  obtain ⟨hascii, hgaps, hreadable⟩ := readable_exponent hexponent
  have hwdigits : ∀ c ∈ withoutGaps whole, c.isDigit = true :=
    fun _ hc => isDigit_of_mem_withoutGaps hwhole hc
  have hfdigits : ∀ c ∈ withoutGaps fraction, c.isDigit = true :=
    fun _ hc => isDigit_of_mem_withoutGaps hfraction hc
  have hsplit := splitSign_lower (fraction ++ exponent)
    (withoutGaps fraction ++ exponent.map Char.toLower) hsign hwhole (.inl rfl)
    (by rw [withoutGaps_append, hgaps]
        exact isAscii_append.mpr ⟨fun c hc => isAscii_of_isDigit (hfdigits c hc), hascii⟩)
    (by rw [withoutGaps_append, hgaps, List.map_append, map_toLower_digits hfdigits])
  have hdigits : ((withoutGaps whole).isEmpty && (withoutGaps fraction).isEmpty) = false := by
    rw [Bool.and_eq_false_iff, List.isEmpty_eq_false_iff, List.isEmpty_eq_false_iff]
    exact hdigit
  have hread := readDecimal?_point hwdigits hfdigits hdigits hreadable.read hreadable.head
    hreadable.inner
  have hexcolon : ':' ∉ exponent := fun hc => hreadable.plain (List.mem_map_of_mem hc)
  refine eq_error_iff_of_read ?_ (readFloat_ne_error hsplit ?_ ?_ hread e)
  · simp only [List.mem_append, List.mem_cons, not_or]
    exact ⟨colon_not_mem_sign hsign, colon_not_mem hwhole, by decide, colon_not_mem hfraction, hexcolon⟩
  · exact List.append_ne_nil_of_right_ne_nil _ (List.cons_ne_nil _ _)
  · simp only [List.mem_append, List.mem_cons, not_or]
    exact ⟨fun hc => ne_of_isDigit (hwdigits _ hc) (by decide) rfl, by decide,
      fun hc => ne_of_isDigit (hfdigits _ hc) (by decide) rfl, hreadable.plain⟩

omit hsign in
/-- All places of a number in base sixty are decimals. -/
theorem places_read {middle : List Char} (hdigit : withoutGaps whole ≠ [])
    (hmiddle : ∀ p ∈ splitAt ':' middle, isSixtieth p = true) :
    ∀ p ∈ splitAt ':' (withoutGaps whole ++ ':' :: (middle ++ '.' :: withoutGaps fraction)),
      readDecimal? p ≠ none := by
  have hsome {α : Type} {x : Option α} (h : x.isSome = true) : x ≠ none := Option.isSome_iff_ne_none.mp h
  have hwdigits : ∀ c ∈ withoutGaps whole, c.isDigit = true :=
    fun _ hc => isDigit_of_mem_withoutGaps hwhole hc
  have hfdigits : ∀ c ∈ withoutGaps fraction, c.isDigit = true :=
    fun _ hc => isDigit_of_mem_withoutGaps hfraction hc
  have hplain {ds : List Char} (h : ∀ c ∈ ds, c.isDigit = true) : ':' ∉ ds :=
    fun hc => ne_of_isDigit (h _ hc) (by decide) rfl
  have htail : ':' ∉ '.' :: withoutGaps fraction :=
    List.not_mem_cons_of_ne_of_not_mem (by decide) (hplain hfdigits)
  obtain ⟨front, last, hpieces, hall⟩ := splitAt_append_last htail middle
  rw [hpieces, List.forall_mem_append, List.forall_mem_singleton] at hmiddle
  rw [splitAt_concat, splitAt_of_not_mem (hplain hwdigits), hall, List.singleton_append,
    List.forall_mem_cons, List.forall_mem_append, List.forall_mem_singleton]
  refine ⟨hsome (readDecimal?_digits hwdigits (List.isEmpty_eq_false_iff.mpr hdigit)), fun p hp => ?_, ?_⟩
  · obtain ⟨hne, _, hdigits⟩ := digits_of_isSixtieth (hmiddle.1 p hp)
    exact hsome (readDecimal?_digits hdigits (List.isEmpty_eq_false_iff.mpr hne))
  · obtain ⟨hne, _, hdigits⟩ := digits_of_isSixtieth hmiddle.2
    have hexponent : (readExponent? []).isSome = true := rfl
    have hread := readDecimal?_point hdigits hfdigits
      (Bool.and_eq_false_iff.mpr (.inl (List.isEmpty_eq_false_iff.mpr hne))) hexponent
      (fun _ hc => nomatch hc) fun _ hc => absurd hc List.not_mem_nil
    rw [List.append_nil] at hread
    exact hsome hread

theorem readFloat_places {middle : List Char} (hdigit : withoutGaps whole ≠ [])
    (hmiddle : ∀ p ∈ splitAt ':' middle, isSixtieth p = true) {e : ReadError} :
    readFloat (sign ++ (whole ++ ':' :: (middle ++ '.' :: fraction))) = .error e ↔
      maxPlaces ≤ (sign ++ (whole ++ ':' :: (middle ++ '.' :: fraction))).count ':' ∧
        e = .fault .overflow := by
  have hfdigits : ∀ c ∈ withoutGaps fraction, c.isDigit = true :=
    fun _ hc => isDigit_of_mem_withoutGaps hfraction hc
  obtain ⟨hmgaps, hmsmall, hmascii⟩ := middle_plain hmiddle
  have hgaps : withoutGaps (middle ++ '.' :: fraction) = middle ++ '.' :: withoutGaps fraction := by
    rw [withoutGaps_append, withoutGaps_cons (by decide), hmgaps]
  have hsmall : (middle ++ '.' :: withoutGaps fraction).map Char.toLower =
      middle ++ '.' :: withoutGaps fraction := by
    rw [List.map_append, List.map_cons, hmsmall, map_toLower_digits hfdigits]
    rfl
  have hascii : IsAscii (middle ++ '.' :: withoutGaps fraction) :=
    isAscii_append.mpr ⟨hmascii, isAscii_cons.mpr
      ⟨by decide, fun c hc => isAscii_of_isDigit (hfdigits c hc)⟩⟩
  have hsplit := splitSign_lower (middle ++ '.' :: fraction)
    (middle ++ '.' :: withoutGaps fraction) hsign hwhole (.inr rfl) (hgaps ▸ hascii)
    (hgaps ▸ hsmall)
  obtain ⟨parts, hparts, hlength⟩ := exists_mapM (places_read hwhole hfraction hdigit hmiddle)
  have hcount : (withoutGaps whole ++ ':' :: (middle ++ '.' :: withoutGaps fraction)).count ':' =
      (sign ++ (whole ++ ':' :: (middle ++ '.' :: fraction))).count ':' := by
    have hnone {ds : List Char} (h : ':' ∉ ds) : ds.count ':' = 0 := List.count_eq_zero.mpr h
    have hgaps {ds : List Char} (h : ':' ∉ ds) : ':' ∉ withoutGaps ds :=
      fun hc => h (List.mem_of_mem_filter hc)
    simp only [List.count_append, List.count_cons, hnone (colon_not_mem_sign hsign),
      hnone (colon_not_mem hwhole), hnone (colon_not_mem hfraction),
      hnone (hgaps (colon_not_mem hwhole)), hnone (hgaps (colon_not_mem hfraction)), Nat.zero_add]
  rw [length_splitAt, hcount] at hlength
  rw [readFloat_sixtieths hsplit (List.mem_append_right _ List.mem_cons_self) hparts, sumSixtieths_one,
    List.length_reverse, hlength, Nat.lt_succ_iff]

end Forms

/-- **Which texts with the form of a decimal are none.** -/
theorem readFloat_eq_error (h : isDecimalForm s = true) {e : ReadError} :
    readFloat s = .error e ↔ maxPlaces ≤ s.count ':' ∧ e = .fault .overflow := by
  cases decimalForm_of_isDecimalForm h with
  | @infinity sign word hsign hword =>
      have hmem : sign ∈ [[], ['-'], ['+']] := by simpa [IsSign] using hsign
      obtain ⟨hread, hcolon⟩ := readFloat_words.1 sign hmem word hword
      exact eq_error_iff_of_read hcolon (ne_error_of_failure? hread e)
  | nan hword =>
      obtain ⟨hread, hcolon⟩ := readFloat_words.2 s hword
      exact eq_error_iff_of_read hcolon (ne_error_of_failure? hread e)
  | point hsign hwhole hfraction hexponent hdigit =>
      exact readFloat_point hsign hwhole hfraction hexponent hdigit
  | sixtieths hsign hwhole hdigit hmiddle hfraction =>
      exact readFloat_places hsign hwhole hfraction hdigit hmiddle

/-! ## 5. Dates and moments -/

namespace Stamp

/-- The day of a stamp. -/
def date (t : Stamp) : Date := ⟨numberOf t.year, numberOf t.month, numberOf t.day⟩

/-- The distance of a time from universal time, in minutes. -/
def offset (t : StampTime) : Option Int :=
  t.zone.map fun (negative, hours, minutes) =>
    let n : Int := (numberOf hours * 60 + numberOf minutes : Nat)
    if negative then -n else n

/-- The moment of a day and a time. -/
def moment (d : Date) (t : StampTime) : Moment :=
  ⟨d, numberOf t.hour, numberOf t.minute, numberOf t.second, millionths t.fraction, offset t⟩

/-- Is the stamp in the calendar: a day, or a moment of a day? -/
def isPossible (t : Stamp) : Bool :=
  match t.time with
  | none => t.date.valid
  | some time => (moment t.date time).valid

end Stamp

/-- **A date or a moment is not read exactly if it is not in the calendar.** -/
theorem readMoment_eq_error {s : List Char} {t : Stamp} (h : Stamp.read? (dropFinalBreak s) = some t)
    {e : ReadError} : readMoment s = .error e ↔ t.isPossible = false ∧ e = .fault .badValue := by
  have hcase {b : Bool} {x : Data} : (if b = true then .ok x else .error (.fault .badValue) :
      Except ReadError Data) = .error e ↔ b = false ∧ e = .fault .badValue := by
    cases b with
    | true =>
        constructor
        · intro he
          cases he
        · rintro ⟨hb, _⟩
          cases hb
    | false => exact ⟨fun he => ⟨rfl, (Except.error.inj he).symm⟩, fun he => congrArg Except.error he.2.symm⟩
  unfold readMoment
  rw [h]
  dsimp only
  unfold Stamp.isPossible
  cases t.time with
  | none => exact hcase
  | some time => exact hcase

/-- What has the form of a date or a moment has its parts. -/
theorem exists_stamp {s : List Char} (h : isStampForm s = true) : ∃ t, Stamp.read? s = some t := by
  unfold isStampForm at h
  split at h
  · rename_i t ht
    exact ⟨t, ht⟩
  · cases h

/-! ## 6. What the form of a plain scalar says -/

/-- A text that ends in no line break. -/
def Unbroken (text : String) : Prop := ∀ c, text.toList.getLast? = some c → isBreak c = false

theorem dropFinalBreak_of_unbroken {text : String} (h : Unbroken text) :
    dropFinalBreak text.toList = text.toList := by
  unfold dropFinalBreak
  refine if_neg fun hlast => ?_
  exact absurd (h _ (beq_iff_eq.mp hlast)) (by decide)

/-- What a text with the form of a kind looks like. -/
def HasForm (text : String) : Tag → Prop
  | .bool => text ∈ boolWords
  | .int => isIntegerForm text.toList = true
  | .float => isDecimalForm text.toList = true
  | .moment => isStampForm text.toList = true
  | .binary => False
  | _ => True

theorem hasForm_ofPlain {text : String} (h : Unbroken text) : HasForm text (Tag.ofPlain text) := by
  unfold Tag.ofPlain
  dsimp only
  rw [dropFinalBreak_of_unbroken h, String.ofList_toList]
  split
  · trivial
  split
  · rename_i hword
    exact List.contains_iff_mem.mp hword
  split
  · assumption
  split
  · assumption
  split
  · trivial
  split
  · trivial
  split
  · assumption
  split
  · trivial
  split
  · trivial
  · trivial

/-! ## 7. Plain scalars without a value -/

/-- A plain scalar that has the form of a typed value but denotes none, and the fault that this is. -/
inductive PlainFault (text : String) : Fault → Prop where
  | moment {t : Stamp} (hform : Tag.ofPlain text = .moment) (h : Stamp.read? text.toList = some t)
      (himpossible : t.isPossible = false) : PlainFault text .badValue
  | integer (hform : Tag.ofPlain text = .int) (h : NoInteger (splitSign text.toList).2) :
      PlainFault text .badValue
  | decimal (hform : Tag.ofPlain text = .float) (h : maxPlaces ≤ text.toList.count ':') :
      PlainFault text .overflow

theorem readBool_words : ∀ word ∈ boolWords, failure? (readBool word.toList) = none := by
  decide +kernel

/-- Only dates, moments, integers and decimals are without a value. -/
theorem not_plainFault {text : String} {f : Fault} (h : Tag.ofPlain text ≠ .moment ∧
    Tag.ofPlain text ≠ .int ∧ Tag.ofPlain text ≠ .float) : ¬ PlainFault text f := by
  rintro (⟨hform, _⟩ | ⟨hform, _⟩ | ⟨hform, _⟩)
  · exact h.1 hform
  · exact h.2.1 hform
  · exact h.2.2 hform

/-- **A plain scalar fails exactly if it has the form of a typed value and denotes none.** -/
theorem readScalar_ofPlain {text : String} (h : Unbroken text) {f : Fault} :
    readScalar (Tag.ofPlain text) text = .error (.fault f) ↔ PlainFault text f := by
  have hform := hasForm_ofPlain h
  cases hkind : Tag.ofPlain text with
  | moment =>
      rw [hkind] at hform
      obtain ⟨t, ht⟩ := exists_stamp hform
      refine (readMoment_eq_error (dropFinalBreak_of_unbroken h ▸ ht)).trans ⟨?_, fun hno => ?_⟩
      · rintro ⟨himpossible, hf⟩
        cases hf
        exact .moment hkind ht himpossible
      · cases hno with
        | moment _ ht' himpossible =>
            rw [ht] at ht'
            cases ht'
            exact ⟨himpossible, rfl⟩
        | integer hother => cases hkind.symm.trans hother
        | decimal hother => cases hkind.symm.trans hother
  | int =>
      rw [hkind] at hform
      refine (readInt_eq_error hform).trans ⟨?_, fun hno => ?_⟩
      · rintro ⟨hno, hf⟩
        cases hf
        exact .integer hkind hno
      · cases hno with
        | moment hother => cases hkind.symm.trans hother
        | integer _ hno => exact ⟨hno, rfl⟩
        | decimal hother => cases hkind.symm.trans hother
  | float =>
      rw [hkind] at hform
      refine (readFloat_eq_error hform).trans ⟨?_, fun hno => ?_⟩
      · rintro ⟨hmany, hf⟩
        cases hf
        exact .decimal hkind hmany
      · cases hno with
        | moment hother => cases hkind.symm.trans hother
        | integer hother => cases hkind.symm.trans hother
        | decimal _ hmany => exact ⟨hmany, rfl⟩
  | bool =>
      rw [hkind] at hform
      refine iff_of_false (ne_error_of_failure? (readBool_words text hform) _) (not_plainFault ?_)
      rw [hkind]
      exact ⟨nofun, nofun, nofun⟩
  | binary =>
      rw [hkind] at hform
      exact hform.elim
  | _ =>
      refine iff_of_false (fun he => by cases he) (not_plainFault ?_)
      rw [hkind]
      exact ⟨nofun, nofun, nofun⟩

end DomainGen.Yaml
