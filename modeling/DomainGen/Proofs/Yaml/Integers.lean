import DomainGen.Proofs.Except
import DomainGen.Proofs.Number.Digits
import DomainGen.Proofs.Text.Pieces
import DomainGen.Yaml.Scalar

/-!
# Integers in plain scalars

A plain scalar that has the form of an integer is read as one. Almost all of them are integers, but a
mark of a base can have nothing but gaps behind it, and the digits can be too many.

* `withoutGaps` : the text without the gaps between groups of digits;
* `IntegerForm` : the forms; `NoInteger` : what makes one of them none;
* `readInt_eq_error` : **which forms are none**.
-/

namespace DomainGen.Yaml

open Text

variable {s : List Char}

/-! ## 1. Signs and gaps -/

/-- A sign, or none. -/
def IsSign (sign : List Char) : Prop := sign = [] ∨ sign = ['-'] ∨ sign = ['+']

theorem splitSign_append {sign t : List Char} (hsign : IsSign sign)
    (ht : ∀ c ∈ t.head?, c ≠ '-' ∧ c ≠ '+') : (splitSign (sign ++ t)).2 = t := by
  rcases hsign with rfl | rfl | rfl
  · rw [List.nil_append, splitSign_eq_self ht]
  · rfl
  · rfl

/-- A text is its sign and what follows it. -/
theorem exists_splitSign (s : List Char) : ∃ sign, IsSign sign ∧ s = sign ++ (splitSign s).2 := by
  unfold splitSign
  split
  · exact ⟨['-'], .inr (.inl rfl), rfl⟩
  · exact ⟨['+'], .inr (.inr rfl), rfl⟩
  · exact ⟨[], .inl rfl, rfl⟩

/-- The text without the gaps between groups of digits. -/
def withoutGaps (s : List Char) : List Char := s.filter (· != '_')

theorem withoutGaps_append (s t : List Char) :
    withoutGaps (s ++ t) = withoutGaps s ++ withoutGaps t := List.filter_append s t

theorem withoutGaps_cons {c : Char} (hc : c ≠ '_') (s : List Char) :
    withoutGaps (c :: s) = c :: withoutGaps s :=
  List.filter_cons_of_pos (bne_iff_ne.mpr hc)

theorem withoutGaps_sign {sign : List Char} (h : IsSign sign) : withoutGaps sign = sign := by
  rcases h with rfl | rfl | rfl
  · rfl
  · rfl
  · rfl

/-- Digits and gaps without the gaps. -/
theorem isDigit_of_mem_withoutGaps (h : ∀ c ∈ s, isDigitOrGap c = true) {c : Char}
    (hc : c ∈ withoutGaps s) : c.isDigit = true := by
  obtain ⟨hmem, hne⟩ := List.mem_filter.mp hc
  rcases Bool.or_eq_true_iff.mp (h c hmem) with hdigit | hgap
  · exact hdigit
  · exact absurd hgap (by simpa using hne)

theorem withoutGaps_of_digits (h : ∀ c ∈ s, c.isDigit = true) : withoutGaps s = s :=
  List.filter_eq_self.mpr fun c hc => bne_iff_ne.mpr fun heq => absurd (heq ▸ h c hc) (by decide)

theorem ne_of_isDigit {c d : Char} (hc : c.isDigit = true) (hd : d.isDigit = false) : c ≠ d := by
  rintro rfl
  rw [hc] at hd
  cases hd

/-! ## 2. Forms of integers -/

/-- The form of an integer without a sign. -/
inductive IntegerForm : List Char → Prop where
  | zero : IntegerForm ['0']
  | binary {rest : List Char} (h : ∀ c ∈ rest, c = '_' ∨ CountsIn 2 c) :
      IntegerForm ('0' :: 'b' :: rest)
  | hexadecimal {rest : List Char} (h : ∀ c ∈ rest, c = '_' ∨ CountsIn 16 c) :
      IntegerForm ('0' :: 'x' :: rest)
  | octal {rest : List Char} (h : ∀ c ∈ rest, c = '_' ∨ CountsIn 8 c) : IntegerForm ('0' :: rest)
  | decimal {body first : List Char} {rest : List (List Char)} (h : splitAt ':' body = first :: rest)
      (hfirst : isLeadingNumber first = true) (hrest : ∀ p ∈ rest, isSixtieth p = true) :
      IntegerForm body

theorem countsIn_two {c : Char} (h : c = '0' ∨ c = '1') : CountsIn 2 c := by
  rcases h with rfl | rfl
  · decide
  · decide

theorem countsIn_eight {c : Char} (h : '0' ≤ c ∧ c ≤ '7') : CountsIn 8 c := by
  have hall : ∀ n < 128, '0' ≤ Char.ofNat n ∧ Char.ofNat n ≤ '7' → CountsIn 8 (Char.ofNat n) := by
    decide +kernel
  exact of_ascii (P := fun c => '0' ≤ c ∧ c ≤ '7' → CountsIn 8 c) hall
    (isAscii_of_le h.2 (by decide)) h

theorem countsIn_sixteen {c : Char} (h : c.isDigit = true ∨ ('a' ≤ c ∧ c ≤ 'f') ∨ ('A' ≤ c ∧ c ≤ 'F')) :
    CountsIn 16 c := by
  have hall : ∀ n < 128, (Char.ofNat n).isDigit = true ∨ ('a' ≤ Char.ofNat n ∧ Char.ofNat n ≤ 'f') ∨
      ('A' ≤ Char.ofNat n ∧ Char.ofNat n ≤ 'F') → CountsIn 16 (Char.ofNat n) := by
    decide +kernel
  refine of_ascii (P := fun c => c.isDigit = true ∨ ('a' ≤ c ∧ c ≤ 'f') ∨ ('A' ≤ c ∧ c ≤ 'F') →
    CountsIn 16 c) hall ?_ h
  rcases h with hdigit | hsmall | hcapital
  · exact isAscii_of_isDigit hdigit
  · exact isAscii_of_le hsmall.2 (by decide)
  · exact isAscii_of_le hcapital.2 (by decide)

theorem integerForm_of_isIntegerForm (h : isIntegerForm s = true) : IntegerForm (splitSign s).2 := by
  unfold isIntegerForm at h
  split at h
  · rename_i hbody
    rw [hbody]
    exact .zero
  · rename_i rest hbody
    rw [hbody]
    refine .binary fun c hc => ?_
    have hchar := List.all_eq_true.mp (Bool.and_eq_true_iff.mp h).2 c hc
    simp only [Bool.or_eq_true, beq_iff_eq] at hchar
    exact hchar.elim (fun h => .inr (countsIn_two h)) .inl
  · rename_i rest hbody
    rw [hbody]
    refine .hexadecimal fun c hc => ?_
    have hchar := List.all_eq_true.mp (Bool.and_eq_true_iff.mp h).2 c hc
    unfold isDigitOrGap at hchar
    simp only [Bool.or_eq_true, Bool.and_eq_true, beq_iff_eq, decide_eq_true_eq] at hchar
    rcases hchar with ((hdigit | hgap) | hsmall) | hcapital
    · exact .inr (countsIn_sixteen (.inl hdigit))
    · exact .inl hgap
    · exact .inr (countsIn_sixteen (.inr (.inl hsmall)))
    · exact .inr (countsIn_sixteen (.inr (.inr hcapital)))
  · rename_i rest _ _ _ hbody
    rw [hbody]
    refine .octal fun c hc => ?_
    have hchar := List.all_eq_true.mp h c hc
    simp only [Bool.or_eq_true, Bool.and_eq_true, beq_iff_eq, decide_eq_true_eq] at hchar
    exact hchar.elim (fun h => .inr (countsIn_eight h)) .inl
  · split at h
    · rename_i first rest hsplit
      obtain ⟨hfirst, hrest⟩ := Bool.and_eq_true_iff.mp h
      exact .decimal hsplit hfirst (List.all_eq_true.mp hrest)
    · cases h

/-! ## 3. Reading integers -/

/-- What an integer without a sign and without gaps is read as. -/
def magnitude (body : List Char) : Except ReadError Int :=
  match body with
  | [] => .error (.fault .missingItem)
  | ['0'] => .ok 0
  | '0' :: 'b' :: rest => orBadValue (readInteger? 2 rest)
  | '0' :: 'x' :: rest => orBadValue (readInteger? 16 rest)
  | '0' :: _ => orBadValue (readInteger? 8 body)
  | _ =>
    if body.contains ':' then
      orBadValue (((splitAt ':' body).mapM (readInteger? 10)).map joinSixtieths)
    else orBadValue (readInteger? 10 body)

theorem magnitude_octal {rest : List Char} (hne : rest ≠ []) (hb : ∀ more, rest ≠ 'b' :: more)
    (hx : ∀ more, rest ≠ 'x' :: more) :
    magnitude ('0' :: rest) = orBadValue (readInteger? 8 ('0' :: rest)) := by
  unfold magnitude
  split
  · contradiction
  · exact absurd (List.cons.inj ‹_›).2 hne
  · exact absurd (List.cons.inj ‹_›).2 (hb _)
  · exact absurd (List.cons.inj ‹_›).2 (hx _)
  · rfl
  · rename_i h
    exact (h rest rfl).elim

theorem magnitude_decimal {body : List Char} (hne : body ≠ []) (hzero : ∀ rest, body ≠ '0' :: rest) :
    magnitude body = if body.contains ':' then
      orBadValue (((splitAt ':' body).mapM (readInteger? 10)).map joinSixtieths)
    else orBadValue (readInteger? 10 body) := by
  unfold magnitude
  split
  · exact absurd rfl hne
  · exact absurd rfl (hzero _)
  · exact absurd rfl (hzero _)
  · exact absurd rfl (hzero _)
  · exact absurd rfl (hzero _)
  · rfl

/-- An integer is not read exactly if what follows its sign is not. -/
theorem readInt_eq_error_iff {e : ReadError} :
    readInt s = .error e ↔ magnitude (splitSign (withoutGaps s)).2 = .error e := by
  have hmap {α : Type} {x : Except ReadError α} {f : α → Data} :
      (x >>= fun a => pure (f a)) = .error e ↔ x = .error e := except_map_eq_error
  unfold readInt withoutGaps
  dsimp only
  generalize splitSign (s.filter (· != '_')) = signed
  obtain ⟨negative, body⟩ := signed
  dsimp only
  split
  · exact hmap
  · exact hmap
  · exact hmap
  · exact hmap
  · rename_i rest hnil hb hx
    rw [magnitude_octal (fun h => hnil (h ▸ rfl)) (fun more h => hb more (h ▸ rfl))
      fun more h => hx more (h ▸ rfl)]
    exact hmap
  · rename_i hne _ _ _ hzero
    rw [magnitude_decimal hne hzero]
    split
    · exact hmap
    · exact hmap

theorem orBadValue_eq_error {α : Type} {x : Option α} {e : ReadError} :
    orBadValue x = .error e ↔ x = none ∧ e = .fault .badValue := by
  cases x with
  | none => exact ⟨fun h => ⟨rfl, (Except.error.inj h).symm⟩, fun h => congrArg Except.error h.2.symm⟩
  | some a =>
      constructor
      · intro h
        cases h
      · rintro ⟨h, _⟩
        cases h

/-- The digits of a base without the gaps. -/
theorem countsIn_of_mem_withoutGaps {base : Nat} (h : ∀ c ∈ s, c = '_' ∨ CountsIn base c) {c : Char}
    (hc : c ∈ withoutGaps s) : CountsIn base c := by
  obtain ⟨hmem, hne⟩ := List.mem_filter.mp hc
  exact (h c hmem).resolve_left (bne_iff_ne.mp hne)

/-- A place of a number in base sixty has digits. -/
theorem digits_of_isSixtieth {piece : List Char} (h : isSixtieth piece = true) :
    piece ≠ [] ∧ piece.length ≤ 2 ∧ ∀ c ∈ piece, c.isDigit = true := by
  have hsmall : ∀ n < 128, '0' ≤ Char.ofNat n → Char.ofNat n ≤ '5' →
      (Char.ofNat n).isDigit = true := by
    decide +kernel
  unfold isSixtieth at h
  split at h
  · exact ⟨List.cons_ne_nil _ _, Nat.le_succ 1, List.forall_mem_singleton.mpr h⟩
  · rename_i t d
    simp only [Bool.and_eq_true, decide_eq_true_eq] at h
    have ht : t.isDigit = true := of_ascii (P := fun c => '0' ≤ c → c ≤ '5' → c.isDigit = true) hsmall
      (isAscii_of_le h.1.2 (by decide)) h.1.1 h.1.2
    refine ⟨List.cons_ne_nil _ _, Nat.le_refl 2, ?_⟩
    exact List.forall_mem_cons.mpr ⟨ht, List.forall_mem_singleton.mpr h.2⟩
  · cases h

/-- Why an integer of some form is none: the mark of its base has only gaps behind it, or its first
    part has too many digits. -/
inductive NoInteger (body : List Char) : Prop where
  | digitless {mark : Char} {rest : List Char} (h : body = '0' :: mark :: rest)
      (hmark : mark = 'b' ∨ mark = 'x') (hrest : withoutGaps rest = []) : NoInteger body
  | long {first : List Char} {rest : List (List Char)} (h : splitAt ':' body = first :: rest)
      (hfirst : isLeadingNumber first = true) (hlong : maxIntegerDigits < (withoutGaps first).length) :
      NoInteger body

section Leading

variable {body first : List Char} {rest : List (List Char)} (h : splitAt ':' body = first :: rest)
  (hfirst : isLeadingNumber first = true)
include h hfirst

/-- A number that does not begin with zero begins with another digit. -/
theorem leading_digit : ∃ d more, body = d :: more ∧ d.isDigit = true ∧ d ≠ '0' := by
  cases body with
  | nil =>
      cases h
      cases hfirst
  | cons c more =>
      by_cases hc : c = ':'
      · subst hc
        rw [splitAt_sep] at h
        cases h
        cases hfirst
      · obtain ⟨piece, pieces, hmore⟩ := List.exists_cons_of_ne_nil (splitAt_ne_nil ':' more)
        rw [splitAt_cons hc hmore] at h
        cases h
        obtain ⟨hd, _⟩ := Bool.and_eq_true_iff.mp hfirst
        obtain ⟨hdigit, hne⟩ := Bool.and_eq_true_iff.mp hd
        exact ⟨c, more, rfl, hdigit, bne_iff_ne.mp hne⟩

theorem leading_ne_zero (more : List Char) : body ≠ '0' :: more := by
  rintro rfl
  obtain ⟨d, _, heq, _, hne⟩ := leading_digit h hfirst
  exact hne (List.cons.inj heq).1.symm

end Leading

theorem isDigit_of_isLeadingNumber {first : List Char} (h : isLeadingNumber first = true) :
    withoutGaps first ≠ [] ∧ ∀ c ∈ withoutGaps first, c.isDigit = true := by
  cases first with
  | nil => cases h
  | cons c rest =>
      obtain ⟨hc, hrest⟩ := Bool.and_eq_true_iff.mp h
      have hdigit := (Bool.and_eq_true_iff.mp hc).1
      rw [withoutGaps_cons (ne_of_isDigit hdigit (by decide))]
      refine ⟨List.cons_ne_nil _ _, List.forall_mem_cons.mpr ⟨hdigit, fun d hd => ?_⟩⟩
      exact isDigit_of_mem_withoutGaps (List.all_eq_true.mp hrest) hd

/-- Where each item has a value, so has the list. -/
theorem exists_mapM {α β : Type} {f : α → Option β} : ∀ {xs : List α}, (∀ x ∈ xs, f x ≠ none) →
    ∃ ys, xs.mapM f = some ys ∧ ys.length = xs.length
  | [], _ => ⟨[], List.mapM_nil, rfl⟩
  | x :: xs, h => by
      obtain ⟨hx, hxs⟩ := List.forall_mem_cons.mp h
      obtain ⟨y, hy⟩ := Option.ne_none_iff_exists'.mp hx
      obtain ⟨ys, hys, hlength⟩ := exists_mapM hxs
      refine ⟨y :: ys, ?_, congrArg (· + 1) hlength⟩
      rw [List.mapM_cons, hy, hys]
      rfl

theorem mapM_eq_none {α β : Type} {f : α → Option β} {x : α} {xs : List α}
    (h : ∀ y ∈ xs, f y ≠ none) : (x :: xs).mapM f = none ↔ f x = none := by
  obtain ⟨ys, hys, _⟩ := exists_mapM h
  rw [List.mapM_cons, hys]
  cases f x with
  | none => exact ⟨fun _ => rfl, fun _ => rfl⟩
  | some y =>
      constructor
      · intro h
        cases h
      · intro h
        cases h

/-- The only integers without a value that begin with zero are marks of a base with nothing but gaps. -/
theorem noInteger_zero {rest : List Char} : NoInteger ('0' :: rest) ↔
    ∃ mark more, rest = mark :: more ∧ (mark = 'b' ∨ mark = 'x') ∧ withoutGaps more = [] := by
  constructor
  · intro h
    cases h with
    | digitless h hmark hrest => exact ⟨_, _, (List.cons.inj h).2, hmark, hrest⟩
    | long h hfirst _ => exact absurd rfl (leading_ne_zero h hfirst _)
  · rintro ⟨mark, more, rfl, hmark, hmore⟩
    exact .digitless rfl hmark hmore

theorem marked_eq_none {base : Nat} {mark : Char} {rest : List Char} (hbase : base ≠ 10)
    (hmark : mark = 'b' ∨ mark = 'x') (hrest : ∀ c ∈ rest, c = '_' ∨ CountsIn base c) :
    readInteger? base (withoutGaps rest) = none ↔ NoInteger ('0' :: mark :: rest) := by
  rw [readInteger?_eq_none fun c hc => countsIn_of_mem_withoutGaps hrest hc, noInteger_zero]
  constructor
  · rintro (h | ⟨h, _⟩)
    · exact ⟨mark, rest, rfl, hmark, h⟩
    · exact absurd h hbase
  · rintro ⟨_, _, h, _, hnil⟩
    cases h
    exact .inl hnil

/-- Octal digits with a zero before them are an integer. -/
theorem magnitude_octal_ok {rest : List Char} (hrest : ∀ c ∈ rest, c = '_' ∨ CountsIn 8 c)
    (e : ReadError) : magnitude ('0' :: withoutGaps rest) ≠ .error e := by
  have hdigits : ∀ c ∈ '0' :: withoutGaps rest, CountsIn 8 c :=
    List.forall_mem_cons.mpr ⟨by decide, fun c hc => countsIn_of_mem_withoutGaps hrest hc⟩
  cases hgaps : withoutGaps rest with
  | nil =>
      intro h
      cases h
  | cons c more =>
      rw [hgaps] at hdigits
      have hc := hdigits c (List.mem_cons_of_mem _ List.mem_cons_self)
      have hb : c ≠ 'b' := fun h => absurd (h ▸ hc) (by decide)
      have hx : c ≠ 'x' := fun h => absurd (h ▸ hc) (by decide)
      rw [magnitude_octal (List.cons_ne_nil _ _) (fun _ h => hb (List.cons.inj h).1)
        (fun _ h => hx (List.cons.inj h).1), ne_eq, orBadValue_eq_error,
        readInteger?_eq_none hdigits]
      rintro ⟨h | ⟨h, _⟩, _⟩
      · cases h
      · cases h

/-- Decimal digits are no integer if there are too many of them in the first part. -/
theorem magnitude_decimal_eq_error {body first : List Char} {rest : List (List Char)}
    (h : splitAt ':' body = first :: rest) (hfirst : isLeadingNumber first = true)
    (hrest : ∀ p ∈ rest, isSixtieth p = true) {e : ReadError} :
    magnitude (withoutGaps body) = .error e ↔
      maxIntegerDigits < (withoutGaps first).length ∧ e = .fault .badValue := by
  obtain ⟨hne, hdigits⟩ := isDigit_of_isLeadingNumber hfirst
  obtain ⟨d, more, rfl, hd, hzero⟩ := leading_digit h hfirst
  have hlong : readInteger? 10 (withoutGaps first) = none ↔
      maxIntegerDigits < (withoutGaps first).length := by
    rw [readInteger?_eq_none fun c hc => countsIn_ten (hdigits c hc)]
    exact ⟨fun h => (h.resolve_left hne).2, fun h => .inr ⟨rfl, h⟩⟩
  have hpieces : splitAt ':' (withoutGaps (d :: more)) = withoutGaps first :: rest.map withoutGaps := by
    unfold withoutGaps
    rw [splitAt_filter (by decide), h, List.map_cons]
  have hplaces : ∀ p ∈ rest.map withoutGaps, readInteger? 10 p ≠ none := by
    refine List.forall_mem_map.mpr fun p hp => ?_
    obtain ⟨hpne, hlength, hpdigits⟩ := digits_of_isSixtieth (hrest p hp)
    rw [withoutGaps_of_digits hpdigits, ne_eq,
      readInteger?_eq_none fun c hc => countsIn_ten (hpdigits c hc)]
    rintro (hnil | ⟨_, hmany⟩)
    · exact hpne hnil
    · exact absurd (Nat.lt_of_lt_of_le hmany hlength) (by decide)
  rw [withoutGaps_cons (ne_of_isDigit hd (by decide))] at hpieces ⊢
  rw [magnitude_decimal (List.cons_ne_nil _ _) fun _ h => hzero (List.cons.inj h).1]
  split
  · rw [orBadValue_eq_error, Option.map_eq_none_iff, hpieces, mapM_eq_none hplaces, hlong]
  · rename_i hcolon
    rw [splitAt_of_not_mem fun h => hcolon (List.contains_iff_mem.mpr h)] at hpieces
    rw [orBadValue_eq_error, (List.cons.inj hpieces).1, hlong]

/-- **Which integers of some form are none.** -/
theorem magnitude_eq_error {body : List Char} (h : IntegerForm body) {e : ReadError} :
    magnitude (withoutGaps body) = .error e ↔ NoInteger body ∧ e = .fault .badValue := by
  cases h with
  | zero =>
      constructor
      · intro h
        cases h
      · rintro ⟨hno, _⟩
        obtain ⟨_, _, h, _⟩ := noInteger_zero.mp hno
        cases h
  | binary hrest =>
      rw [withoutGaps_cons (by decide), withoutGaps_cons (by decide)]
      exact orBadValue_eq_error.trans
        (and_congr_left fun _ => marked_eq_none (by decide) (.inl rfl) hrest)
  | hexadecimal hrest =>
      rw [withoutGaps_cons (by decide), withoutGaps_cons (by decide)]
      exact orBadValue_eq_error.trans
        (and_congr_left fun _ => marked_eq_none (by decide) (.inr rfl) hrest)
  | octal hrest =>
      rw [withoutGaps_cons (by decide)]
      refine iff_of_false (magnitude_octal_ok hrest e) ?_
      rintro ⟨hno, _⟩
      obtain ⟨mark, more, rfl, hmark, _⟩ := noInteger_zero.mp hno
      have hfirst := hrest mark List.mem_cons_self
      rcases hmark with rfl | rfl
      · exact absurd hfirst (by decide)
      · exact absurd hfirst (by decide)
  | decimal hsplit hfirst hrest =>
      rw [magnitude_decimal_eq_error hsplit hfirst hrest]
      refine and_congr_left fun _ => ⟨fun h => .long hsplit hfirst h, fun hno => ?_⟩
      cases hno with
      | digitless h => exact absurd h (leading_ne_zero hsplit hfirst _)
      | long h _ hlong =>
          rw [hsplit] at h
          cases h
          exact hlong

theorem splitSign_withoutGaps {d : Char} {more : List Char} (h : (splitSign s).2 = d :: more)
    (hd : d.isDigit = true) : (splitSign (withoutGaps s)).2 = withoutGaps (d :: more) := by
  obtain ⟨sign, hsign, hs⟩ := exists_splitSign s
  have hgaps := withoutGaps_cons (ne_of_isDigit hd (by decide)) more
  rw [h] at hs
  rw [hs, withoutGaps_append, withoutGaps_sign hsign, hgaps]
  refine splitSign_append hsign fun c hc => ?_
  cases hc
  exact ⟨ne_of_isDigit hd (by decide), ne_of_isDigit hd (by decide)⟩

/-- What has the form of an integer begins with a digit. -/
theorem IntegerForm.head {body : List Char} (h : IntegerForm body) :
    ∃ d more, body = d :: more ∧ d.isDigit = true := by
  cases h with
  | zero => exact ⟨_, _, rfl, by decide⟩
  | binary _ => exact ⟨_, _, rfl, by decide⟩
  | hexadecimal _ => exact ⟨_, _, rfl, by decide⟩
  | octal _ => exact ⟨_, _, rfl, by decide⟩
  | decimal h hfirst _ =>
      obtain ⟨d, more, hbody, hd, _⟩ := leading_digit h hfirst
      exact ⟨d, more, hbody, hd⟩

/-- **Which texts with the form of an integer are none.** -/
theorem readInt_eq_error (h : isIntegerForm s = true) {e : ReadError} :
    readInt s = .error e ↔ NoInteger (splitSign s).2 ∧ e = .fault .badValue := by
  have hform := integerForm_of_isIntegerForm h
  obtain ⟨d, more, hbody, hd⟩ := hform.head
  rw [readInt_eq_error_iff, splitSign_withoutGaps hbody hd, ← hbody, magnitude_eq_error hform]

end DomainGen.Yaml
