import DomainGen.Json.Writer
import DomainGen.Proofs.Except
import DomainGen.Proofs.Json.Number

/-!
# JSON is read back

Plain data with a JSON form is written as a text, and the text is read as the data. What is read of a
value does not depend on what follows it, as long as that does not continue a number; of lists and
objects nothing else follows the items than the writer puts there.

* `readString_flatMap` : **strings are read back**, whatever characters they have;
* `IsText` : what the text of a value is read as, in front of others;
* `isText_number`, `isText_list`, `isText_mapping` : the texts of the kinds of values;
* `exists_writeAt` : every value is written as such a text;
* `read_write` : **what was written is read back**, and it has no carriage returns;
* `write_long` : nothing is written as a whole if an integer in it has too many digits.
-/

namespace DomainGen.Json

open Data Entries Text

/-! ## 1. Strings -/

theorem hexValue?_hexDigit : ∀ d < 16, hexValue? (hexDigit d) = some d := by decide

/-- Four hexadecimal digits are read back. -/
theorem unit?_hexDigits {n : Nat} (hn : n < 65536) (t : List Char) :
    unit? (hexDigits 4 n ++ t) = some (n, t) := by
  have hdigits : hexDigits 4 n ++ t = hexDigit (n / 16 / 16 / 16 % 16) ::
      hexDigit (n / 16 / 16 % 16) :: hexDigit (n / 16 % 16) :: hexDigit (n % 16) :: t := rfl
  have hfour : ((n / 16 / 16 / 16 % 16 * 16 + n / 16 / 16 % 16) * 16 + n / 16 % 16) * 16 + n % 16 =
      n := by omega
  rw [hdigits]
  unfold unit?
  dsimp only
  rw [hexValue?_hexDigit _ (Nat.mod_lt _ (by decide)), hexValue?_hexDigit _ (Nat.mod_lt _ (by decide)),
    hexValue?_hexDigit _ (Nat.mod_lt _ (by decide)), hexValue?_hexDigit _ (Nat.mod_lt _ (by decide))]
  exact congrArg (fun n => some (n, t)) hfour

variable {t s rest : List Char} {fuel : Nat}

/-- An escape of one letter is read as its character. -/
theorem readString_simple {e d : Char} (he : simpleEscape? e = some d) (hu : e ≠ 'u')
    (h : readString fuel t = .ok (s, rest)) :
    readString (fuel + 1) ('\\' :: e :: t) = .ok (d :: s, rest) := by
  rw [readString]
  · rw [if_neg (by decide), if_pos (by decide), he]
    dsimp only
    rw [h]
  · exact hu

/-- An escape of four digits is read as its character. -/
theorem readString_unit {c : Char} (hc : c.toNat < 32) (h : readString fuel t = .ok (s, rest)) :
    readString (fuel + 1) ('\\' :: 'u' :: hexDigits 4 c.toNat ++ t) = .ok (c :: s, rest) := by
  have hchar : unitChar c.toNat t = (c, t) := by
    unfold unitChar
    rw [if_neg (by simp; omega), if_neg (by simp; omega), Char.ofNat_toNat]
  show readString (fuel + 1) ('\\' :: 'u' :: (hexDigits 4 c.toNat ++ t)) = _
  rw [readString]
  rw [if_neg (by decide), if_pos (by decide)]
  dsimp only
  rw [unit?_hexDigits (by omega)]
  dsimp only
  rw [hchar]
  dsimp only
  rw [h]

/-- How a character of a string is written: as an escape of a letter or of digits, or as it is. -/
theorem escapeChar_cases (c : Char) :
    (∃ e, escapeChar c = ['\\', e] ∧ simpleEscape? e = some c ∧ e ≠ 'u') ∨
      (escapeChar c = '\\' :: 'u' :: hexDigits 4 c.toNat ∧ c.toNat < 32) ∨
      (escapeChar c = [c] ∧ c ≠ '"' ∧ c ≠ '\\' ∧ ¬ c.toNat < 32) := by
  by_cases hletter : c ∈ ['"', '\\', '\n', '\r', '\t', '\x08', '\x0c']
  · left
    simp only [List.mem_cons, List.not_mem_nil, or_false] at hletter
    rcases hletter with rfl | rfl | rfl | rfl | rfl | rfl | rfl <;>
      exact ⟨_, rfl, rfl, by decide⟩
  · right
    simp only [List.mem_cons, List.not_mem_nil, or_false, not_or] at hletter
    obtain ⟨hquote, hslash, h1, h2, h3, h4, h5⟩ := hletter
    unfold escapeChar
    simp only [beq_iff_eq, hquote, hslash, h1, h2, h3, h4, h5, if_false]
    by_cases hcontrol : c.toNat < 32
    · rw [if_pos hcontrol]
      exact .inl ⟨rfl, hcontrol⟩
    · rw [if_neg hcontrol]
      exact .inr ⟨rfl, hquote, hslash, hcontrol⟩

/-- **A character of a string is read back**, in front of the others. -/
theorem readString_escapeChar (c : Char) (h : readString fuel t = .ok (s, rest)) :
    readString (fuel + 1) (escapeChar c ++ t) = .ok (c :: s, rest) := by
  rcases escapeChar_cases c with ⟨e, hc, he, hu⟩ | ⟨hc, hcontrol⟩ | ⟨hc, hquote, hslash, hcontrol⟩
  · rw [hc]
    exact readString_simple he hu h
  · rw [hc]
    exact readString_unit hcontrol h
  · rw [hc]
    show readString (fuel + 1) (c :: t) = _
    rw [readString.eq_def]
    dsimp only
    rw [if_neg (by simpa using hquote), if_neg (by simpa using hslash), if_neg hcontrol, h]

/-- **Strings are read back.** -/
theorem readString_flatMap (rest : List Char) : ∀ {s : List Char} {fuel : Nat}, s.length < fuel →
    readString fuel (s.flatMap escapeChar ++ '"' :: rest) = .ok (s, rest)
  | [], fuel + 1, _ => rfl
  | c :: s, fuel + 1, h => by
      have ih := readString_flatMap rest (Nat.lt_of_succ_lt_succ h)
      rw [List.flatMap_cons, List.append_assoc]
      exact readString_escapeChar c ih

theorem length_le_flatMap : ∀ s : List Char, s.length ≤ (s.flatMap escapeChar).length
  | [] => le_rfl
  | c :: s => by
      have ih := length_le_flatMap s
      have hone : 1 ≤ (escapeChar c).length := by
        rcases escapeChar_cases c with ⟨e, hc, _⟩ | ⟨hc, _⟩ | ⟨hc, _⟩ <;> rw [hc] <;>
          exact Nat.le_add_left _ _
      rw [List.flatMap_cons, List.length_append, List.length_cons]
      omega

/-! ## 2. Which kind of value follows -/

/-- A text that no word begins is no word. -/
theorem readWord?_eq_none {s : List Char} (h : ∀ w ∈ words, ¬ w.1.toList <+: s) :
    readWord? s = none := by
  unfold readWord?
  exact List.findSome?_eq_none_iff.mpr fun w hw => if_neg fun hfront =>
    h w hw (List.isPrefixOf_iff_prefix.mp hfront)

/-- A text whose first character begins no word is no word. -/
theorem readWord?_of_head {c : Char} (h : ∀ w ∈ words, w.1.toList.head? ≠ some c) (t : List Char) :
    readWord? (c :: t) = none := by
  have hne : ∀ w ∈ words, w.1.toList ≠ [] := by decide
  refine readWord?_eq_none fun w hw hfront => h w hw ?_
  obtain ⟨d, ds, hd⟩ := List.exists_cons_of_ne_nil (hne w hw)
  rw [hd] at hfront ⊢
  rw [(List.cons_prefix_cons.mp hfront).1]
  rfl

theorem readWord?_digit {c : Char} (hc : c.isDigit = true) (t : List Char) :
    readWord? (c :: t) = none := by
  have hwords : (words.all fun w => w.1.toList.head?.all (!·.isDigit)) = true := by decide
  refine readWord?_of_head (fun w hw hd => ?_) t
  have hletter := List.all_eq_true.mp hwords w hw
  rw [hd, Option.all_some, hc] at hletter
  cases hletter

/-- The second character of every word is a letter. -/
theorem readWord?_minus {c : Char} (hc : c.isDigit = true) (t : List Char) :
    readWord? ('-' :: c :: t) = none := by
  have hlong : ∀ w ∈ words, 2 ≤ w.1.toList.length := by decide
  have hletters : ∀ w ∈ words, w.1.toList[1]?.all (!·.isDigit) = true := by decide
  refine readWord?_eq_none fun w hw hfront => ?_
  have hsecond : w.1.toList[1]? = some c := by
    rw [List.getElem?_eq_getElem (hlong w hw), hfront.getElem (hlong w hw)]
    rfl
  have hletter := hletters w hw
  rw [hsecond, Option.all_some, hc] at hletter
  cases hletter

/-- A value that begins with a digit is a number. -/
theorem readValue_digit {c : Char} (hc : c.isDigit = true) (fuel : Nat) (t : List Char) :
    readValue (fuel + 1) (c :: t) = readNumber false (c :: t) := by
  have hne : ∀ d : Char, d.isDigit = false → c ≠ d := by
    rintro d hd rfl
    rw [hc] at hd
    cases hd
  rw [readValue.eq_def]
  dsimp only
  rw [readWord?_digit hc]
  dsimp only
  split
  · rename_i heq
    exact absurd (List.cons.inj heq).1 (hne _ rfl)
  · rename_i heq
    exact absurd (List.cons.inj heq).1 (hne _ rfl)
  · rename_i heq
    exact absurd (List.cons.inj heq).1 (hne _ rfl)
  · rename_i heq
    exact absurd (List.cons.inj heq).1 (hne _ rfl)
  · rfl

theorem readValue_minus {c : Char} (hc : c.isDigit = true) (fuel : Nat) (t : List Char) :
    readValue (fuel + 1) ('-' :: c :: t) = readNumber true (c :: t) := by
  rw [readValue.eq_def]
  dsimp only
  rw [readWord?_minus hc]
  rfl

theorem readValue_string {s t rest : List Char} {fuel : Nat}
    (h : readString s.length.succ s = .ok (t, rest)) :
    readValue (fuel + 1) ('"' :: s) = .ok (.text (String.ofList t), rest) := by
  rw [readValue.eq_def]
  dsimp only
  rw [readWord?_of_head (by decide)]
  simp only [h]

theorem readValue_list {s t rest : List Char} {fuel : Nat} {c : Char} {items : List Data}
    (hopen : skipSpace s = c :: t) (hc : c ≠ ']') (h : readItems fuel (c :: t) = .ok (items, rest)) :
    readValue (fuel + 1) ('[' :: s) = .ok (.list items, rest) := by
  rw [readValue.eq_def]
  dsimp only
  rw [readWord?_of_head (by decide)]
  simp only [hopen]
  split
  · rename_i heq
    exact absurd (List.cons.inj heq).1 hc
  · rw [h]

theorem readValue_mapping {s t rest : List Char} {fuel : Nat} {c : Char} {members : Entries}
    (hopen : skipSpace s = c :: t) (hc : c ≠ '\x7d')
    (h : readMembers fuel [] (c :: t) = .ok (members, rest)) :
    readValue (fuel + 1) ('\x7b' :: s) = .ok (.mapping members, rest) := by
  rw [readValue.eq_def]
  dsimp only
  rw [readWord?_of_head (by decide)]
  simp only [hopen]
  split
  · rename_i heq
    exact absurd (List.cons.inj heq).1 hc
  · rw [h]

/-! ## 3. The text of a value -/

/-- The text is read as the value, in front of others. It has no carriage returns, and begins neither
    with a blank nor with a bracket that closes a list. -/
structure IsText (text : List Char) (x : Data) : Prop where
  opens : ∃ c t, text = c :: t ∧ isSpace c = false ∧ c ≠ ']'
  read : ∀ {fuel : Nat} {rest : List Char}, 2 * text.length + 1 ≤ fuel → EndsNumber rest →
    readValue fuel (text ++ rest) = .ok (x, rest)
  noReturn : '\r' ∉ text

/-- **A word is read back.** -/
theorem isText_of_readWord? {text : List Char} {x : Data}
    (hread : ∀ rest, readWord? (text ++ rest) = some (x, rest))
    (hopens : (text.head?.any fun c => !isSpace c && c != ']') = true) (hno : '\r' ∉ text) :
    IsText text x := by
  have hhead : ∃ c t, text = c :: t ∧ isSpace c = false ∧ c ≠ ']' := by
    cases text with
    | nil => cases hopens
    | cons c t => exact ⟨c, t, rfl, by simpa using hopens⟩
  refine ⟨hhead, fun {fuel rest} hfuel _ => ?_, hno⟩
  obtain ⟨fuel, rfl⟩ : ∃ f, fuel = f + 1 := ⟨fuel - 1, by omega⟩
  rw [readValue.eq_def]
  dsimp only
  rw [hread]

theorem not_mem_escapeChar (c : Char) : '\r' ∉ escapeChar c := by
  rcases escapeChar_cases c with ⟨e, hc, he, _⟩ | ⟨hc, _⟩ | ⟨hc, _, _, hcontrol⟩ <;> rw [hc]
  · rintro (_ | ⟨_, hmem⟩)
    obtain rfl := List.mem_singleton.mp hmem
    cases he
  · have hhex : ∀ d < 16, '\r' ≠ hexDigit d := by decide
    have hdigits : hexDigits 4 c.toNat = [hexDigit (c.toNat / 16 / 16 / 16 % 16),
      hexDigit (c.toNat / 16 / 16 % 16), hexDigit (c.toNat / 16 % 16), hexDigit (c.toNat % 16)] := rfl
    rw [hdigits]
    simp [hhex _ (Nat.mod_lt _ (by decide))]
  · intro hmem
    obtain rfl := List.mem_singleton.mp hmem
    exact hcontrol (by decide)

theorem toList_writeString (s : String) :
    (writeString s).toList = '"' :: (s.toList.flatMap escapeChar ++ ['"']) := by
  unfold writeString
  rw [String.toList_ofList]
  rfl

theorem not_mem_writeString (s : String) : '\r' ∉ (writeString s).toList := by
  rw [toList_writeString]
  intro hmem
  rcases List.mem_cons.mp hmem with h | h
  · cases h
  · rcases List.mem_append.mp h with h | h
    · obtain ⟨c, _, hc⟩ := List.mem_flatMap.mp h
      exact not_mem_escapeChar c hc
    · cases List.mem_singleton.mp h

/-- A string is read back after its opening quote. -/
theorem readString_writeString (s : String) (rest : List Char) :
    readString (s.toList.flatMap escapeChar ++ '"' :: rest).length.succ
      (s.toList.flatMap escapeChar ++ '"' :: rest) = .ok (s.toList, rest) := by
  refine readString_flatMap rest ?_
  have hlength := length_le_flatMap s.toList
  rw [List.length_append]
  omega

/-- **A string is read back.** -/
theorem isText_string (s : String) : IsText (writeString s).toList (.text s) := by
  refine ⟨⟨_, _, toList_writeString s, rfl, by decide⟩, fun {fuel rest} hfuel _ => ?_,
    not_mem_writeString s⟩
  obtain ⟨fuel, rfl⟩ : ∃ f, fuel = f + 1 := ⟨fuel - 1, by omega⟩
  rw [toList_writeString, List.cons_append, List.append_assoc, List.singleton_append]
  rw [readValue_string (readString_writeString s rest), String.ofList_toList]

/-! ## 4. Numbers -/

/-- **A number is read back**, with its sign. -/
theorem isText_number {body : List Char} {value : Bool → Data}
    (hhead : ∃ c t, body = c :: t ∧ c.isDigit = true) (hno : '\r' ∉ body)
    (hread : ∀ (negative : Bool) (rest : List Char), EndsNumber rest →
      readNumber negative (body ++ rest) = .ok (value negative, rest)) (negative : Bool) :
    IsText (if negative then '-' :: body else body) (value negative) := by
  obtain ⟨c, t, rfl, hc⟩ := hhead
  cases negative with
  | true =>
      refine ⟨⟨_, _, rfl, by decide, by decide⟩, fun {fuel rest} hfuel hrest => ?_, ?_⟩
      · obtain ⟨fuel, rfl⟩ : ∃ f, fuel = f + 1 := ⟨fuel - 1, by omega⟩
        show readValue (fuel + 1) ('-' :: c :: (t ++ rest)) = _
        rw [readValue_minus hc]
        exact hread true rest hrest
      · intro hmem
        rcases List.mem_cons.mp hmem with h | h
        · cases h
        · exact hno h
  | false =>
      have hother : ∀ d : Char, d.isDigit = false → c ≠ d := by
        rintro d hd rfl
        rw [hc] at hd
        cases hd
      refine ⟨⟨_, _, rfl, ?_, hother _ rfl⟩, fun {fuel rest} hfuel hrest => ?_, hno⟩
      · simp [isSpace, hother]
      · obtain ⟨fuel, rfl⟩ : ∃ f, fuel = f + 1 := ⟨fuel - 1, by omega⟩
        show readValue (fuel + 1) (c :: (t ++ rest)) = _
        rw [readValue_digit hc]
        exact hread false rest hrest

theorem isText_integer {i : Int} (h : (Data.int i).hasText = true) :
    IsText (integerText i).toList (.int i) := by
  have hlength : (decimalDigits i.natAbs).length ≤ maxIntegerDigits := by
    have htextless : textlessFrom = 10 ^ maxIntegerDigits := by decide +kernel
    rw [hasText, decide_eq_true_eq, htextless] at h
    exact (length_decimalDigits_le (by decide)).mpr h
  obtain ⟨c, t, hct⟩ := List.exists_cons_of_ne_nil (decimalDigits_ne_nil i.natAbs)
  have hdigit : ∀ d ∈ decimalDigits i.natAbs, d.isDigit = true := fun d hd => isDigit_of_mem hd
  have hnumber := isText_number ⟨c, t, hct, hdigit c (by rw [hct]; exact List.mem_cons_self)⟩
    (fun hmem => absurd (hdigit _ hmem) (by decide)) (readNumber_decimalDigits hlength)
    (decide (i < 0))
  unfold integerText
  rw [String.toList_ofList]
  by_cases hi : i < 0
  · rw [decide_eq_true hi, if_pos rfl, if_pos rfl] at hnumber
    rw [if_pos hi]
    rwa [show -(i.natAbs : Int) = i by omega] at hnumber
  · rw [decide_eq_false hi, if_neg Bool.false_ne_true, if_neg Bool.false_ne_true] at hnumber
    rw [if_neg hi]
    rwa [show (i.natAbs : Int) = i by omega] at hnumber

theorem isText_float {x : Binary64} (h : x.isNumber = true) :
    IsText (x.textIn .json).toList (.float x) := by
  cases x with
  | nan tag => cases h
  | infinity s =>
      cases s with
      | true => exact isText_of_readWord? (fun _ => rfl) (by decide) (by decide)
      | false => exact isText_of_readWord? (fun _ => rfl) (by decide) (by decide)
  | finite s m e =>
      have hfits : Binary64.Fits m e := (Binary64.isFitting_finite (s := s)).mp h
      rw [textIn_finite]
      have hread : ∀ (negative : Bool) (rest : List Char), EndsNumber rest →
          readNumber negative (finiteText .json m e ++ rest) =
            .ok ((fun s => Data.float (.finite s m e)) negative, rest) := readNumber_finiteText .json hfits
      exact isText_number (head_finiteText .json hfits) (not_mem_finiteText .json hfits) hread s

/-- **The text of a value that holds no others is read back.** -/
theorem exists_writeScalar {x : Data} (hx : x.isJson isShort = true) (hlist : ∀ xs, x ≠ .list xs)
    (hmapping : ∀ es, x ≠ .mapping es) :
    ∃ text, writeScalar x = .ok text ∧ IsText text.toList x := by
  cases x with
  | null => exact ⟨_, rfl, isText_of_readWord? (fun _ => rfl) (by decide) (by decide)⟩
  | bool b =>
      cases b with
      | true => exact ⟨_, rfl, isText_of_readWord? (fun _ => rfl) (by decide) (by decide)⟩
      | false => exact ⟨_, rfl, isText_of_readWord? (fun _ => rfl) (by decide) (by decide)⟩
  | int i =>
      refine ⟨integerText i, ?_, isText_integer hx⟩
      show Data.asText (.int i) = _
      unfold asText
      rw [if_pos (show (Data.int i).hasText = true from hx)]
      rfl
  | float x => exact ⟨_, rfl, isText_float hx⟩
  | text s => exact ⟨_, rfl, isText_string s⟩
  | list xs => exact absurd rfl (hlist xs)
  | mapping es => exact absurd rfl (hmapping es)
  | _ => cases hx

/-! ## 5. Lists -/

theorem skipSpace_append {blanks : List Char} (hblanks : ∀ c ∈ blanks, isSpace c = true) {c : Char}
    (hc : isSpace c = false) (t : List Char) : skipSpace (blanks ++ c :: t) = c :: t := by
  unfold skipSpace
  rw [List.dropWhile_append_of_pos hblanks, List.dropWhile_cons, hc]
  rfl

theorem isNumeral_of_isSpace {c : Char} (h : isSpace c = true) : isNumeral c = false := by
  unfold isSpace at h
  simp only [Bool.or_eq_true, beq_iff_eq] at h
  rcases h with ((rfl | rfl) | rfl) | rfl <;> rfl

/-- A bracket or a comma ends a number, with or without blanks before it. -/
theorem endsNumber_append {blanks : List Char} (hblanks : ∀ c ∈ blanks, isSpace c = true) {c : Char}
    (hc : isNumeral c = false) (t : List Char) : EndsNumber (blanks ++ c :: t) := by
  intro d hd
  cases blanks with
  | nil =>
      obtain rfl : c = d := Option.some.inj hd
      exact hc
  | cons b blanks =>
      obtain rfl : b = d := Option.some.inj hd
      exact isNumeral_of_isSpace (hblanks b List.mem_cons_self)

theorem endsNumber_cons {c : Char} (hc : isNumeral c = false) (t : List Char) :
    EndsNumber (c :: t) :=
  endsNumber_append (fun _ h => absurd h List.not_mem_nil) hc t

theorem readItems_last {s r rest : List Char} {fuel : Nat} {x : Data}
    (h : readValue fuel s = .ok (x, r)) (hr : skipSpace r = ']' :: rest) :
    readItems (fuel + 1) s = .ok ([x], rest) := by
  rw [readItems.eq_def]
  dsimp only
  rw [h]
  dsimp only
  rw [hr]
  rfl

theorem readItems_more {s r r' rest : List Char} {fuel : Nat} {x : Data} {xs : List Data}
    (h : readValue fuel s = .ok (x, r)) (hr : skipSpace r = ',' :: r')
    (hrest : readItems fuel (skipSpace r') = .ok (xs, rest)) :
    readItems (fuel + 1) s = .ok (x :: xs, rest) := by
  rw [readItems.eq_def]
  dsimp only
  rw [h]
  dsimp only
  rw [hr]
  simp only [hrest]

variable {sep close : List Char}

theorem IsText.intercalate_opens {t : List Char} {x : Data} (h : IsText t x) (sep : List Char)
    (ts : List (List Char)) :
    ∃ c r, (',' :: sep).intercalate (t :: ts) = c :: r ∧ isSpace c = false ∧ c ≠ ']' := by
  obtain ⟨c, r, rfl, hc⟩ := h.opens
  cases ts with
  | nil => exact ⟨c, r, List.intercalate_singleton, hc⟩
  | cons t ts =>
      rw [List.intercalate_cons_cons, List.append_assoc]
      exact ⟨c, _, rfl, hc⟩

/-- **Items are read back**, with a comma and blanks between them and blanks behind them. -/
theorem readItems_intercalate (hsep : ∀ c ∈ sep, isSpace c = true)
    (hclose : ∀ c ∈ close, isSpace c = true) (rest : List Char) :
    ∀ {ts : List (List Char)} {xs : List Data} {fuel : Nat}, List.Forall₂ IsText ts xs → xs ≠ [] →
      2 * ((',' :: sep).intercalate ts).length + 2 ≤ fuel →
      readItems fuel ((',' :: sep).intercalate ts ++ (close ++ ']' :: rest)) = .ok (xs, rest)
  | [], [], _, _, hne, _ => absurd rfl hne
  | [t], [x], fuel, .cons h .nil, _, hfuel => by
      obtain ⟨fuel, rfl⟩ : ∃ f, fuel = f + 1 := ⟨fuel - 1, by omega⟩
      rw [List.intercalate_singleton] at hfuel ⊢
      exact readItems_last (h.read (by omega) (endsNumber_append hclose (by decide) rest))
        (skipSpace_append hclose (by decide) rest)
  | t :: t' :: ts, x :: x' :: xs, fuel, .cons h hrest, _, hfuel => by
      obtain ⟨fuel, rfl⟩ : ∃ f, fuel = f + 1 := ⟨fuel - 1, by omega⟩
      have hnext := (List.forall₂_cons.mp hrest).1
      obtain ⟨c, r, hopens, hc, _⟩ := hnext.intercalate_opens sep ts
      rw [List.intercalate_cons_cons] at hfuel ⊢
      rw [List.length_append, List.length_append, List.length_cons] at hfuel
      have hskip : skipSpace (sep ++ ((',' :: sep).intercalate (t' :: ts) ++ (close ++ ']' :: rest))) =
          (',' :: sep).intercalate (t' :: ts) ++ (close ++ ']' :: rest) := by
        rw [hopens]
        exact skipSpace_append hsep hc _
      have hread := h.read (show _ ≤ fuel by omega) (endsNumber_cons (show isNumeral ',' = false from rfl)
        (sep ++ ((',' :: sep).intercalate (t' :: ts) ++ (close ++ ']' :: rest))))
      have hitems := readItems_intercalate hsep hclose rest hrest (List.cons_ne_nil _ _)
        (show _ ≤ fuel by omega)
      rw [← hskip] at hitems
      rw [List.append_assoc, List.append_assoc]
      exact readItems_more hread rfl hitems

/-- Where no piece and no separator has a character, none of the joined text is it. -/
theorem not_mem_intercalate {c : Char} {sep : List Char} (hsep : c ∉ sep) :
    ∀ {ts : List (List Char)}, (∀ t ∈ ts, c ∉ t) → c ∉ sep.intercalate ts
  | [], _ => by simp
  | [t], h => by
      rw [List.intercalate_singleton]
      exact h t List.mem_cons_self
  | t :: t' :: ts, h => by
      have ih := not_mem_intercalate hsep fun u hu => h u (List.mem_cons_of_mem t hu)
      rw [List.intercalate_cons_cons, List.mem_append, List.mem_append]
      exact fun hmem => hmem.elim (fun hmem => hmem.elim (h t List.mem_cons_self) hsep) ih

/-- The characters of a line break and an indentation. -/
def breakChars (level : Nat) : List Char := '\n' :: List.replicate (2 * level) ' '

theorem isSpace_breakChars (level : Nat) : ∀ c ∈ breakChars level, isSpace c = true := by
  intro c hc
  rcases List.mem_cons.mp hc with rfl | hc
  · rfl
  · obtain rfl := List.eq_of_mem_replicate hc
    rfl

theorem not_mem_breakChars (level : Nat) : '\r' ∉ breakChars level := by
  intro hmem
  rcases List.mem_cons.mp hmem with h | h
  · cases h
  · cases List.eq_of_mem_replicate h

/-- The characters of pieces between brackets, one a line. -/
def lineChars (opening closing : Char) (level : Nat) (ts : List (List Char)) : List Char :=
  opening :: (breakChars (level + 1) ++ ((',' :: breakChars (level + 1)).intercalate ts ++
    (breakChars level ++ [closing])))

theorem toList_lines {o c : String} {opening closing : Char} (ho : o.toList = [opening])
    (hc : c.toList = [closing]) (level : Nat) (pieces : List String) :
    (o ++ newLine (level + 1) ++ ("," ++ newLine (level + 1)).intercalate pieces ++
      newLine level ++ c).toList = lineChars opening closing level (pieces.map String.toList) := by
  have hbreak : ∀ level, (newLine level).toList = breakChars level := fun _ => String.toList_ofList
  have hsep : ("," ++ newLine (level + 1)).toList = ',' :: breakChars (level + 1) := by
    rw [String.toList_append, hbreak]
    rfl
  unfold lineChars
  simp only [String.toList_append, String.toList_intercalate, hbreak, hsep, ho, hc,
    List.append_assoc, List.cons_append, List.nil_append]

theorem lineChars_append (opening closing : Char) (level : Nat) (ts : List (List Char))
    (rest : List Char) : lineChars opening closing level ts ++ rest =
      opening :: (breakChars (level + 1) ++ ((',' :: breakChars (level + 1)).intercalate ts ++
        (breakChars level ++ closing :: rest))) := by
  simp only [lineChars, List.cons_append, List.append_assoc, List.nil_append]

theorem length_lineChars (opening closing : Char) (level : Nat) (ts : List (List Char)) :
    ((',' :: breakChars (level + 1)).intercalate ts).length + 2 ≤
      (lineChars opening closing level ts).length := by
  simp only [lineChars, List.length_append, List.length_cons, List.length_nil]
  omega

/-- Pieces between brackets have no carriage returns if they have none. -/
theorem not_mem_lineChars {opening closing : Char} (ho : '\r' ≠ opening) (hc : '\r' ≠ closing)
    (level : Nat) {ts : List (List Char)} (hts : ∀ t ∈ ts, '\r' ∉ t) :
    '\r' ∉ lineChars opening closing level ts := by
  have hsep : '\r' ∉ ',' :: breakChars (level + 1) := fun hmem =>
    (List.mem_cons.mp hmem).elim (fun h => by cases h) (not_mem_breakChars _)
  simp only [lineChars, List.mem_cons, List.mem_append, List.not_mem_nil, or_false, not_or]
  exact ⟨ho, not_mem_breakChars _, not_mem_intercalate hsep hts, not_mem_breakChars _, hc⟩

/-- **A list is read back**, if its items are. -/
theorem isText_list {ts : List (List Char)} {xs : List Data} (h : List.Forall₂ IsText ts xs)
    (hne : xs ≠ []) (level : Nat) : IsText (lineChars '[' ']' level ts) (.list xs) := by
  obtain ⟨c, r, hopens, hc, hbracket⟩ : ∃ c r, (',' :: breakChars (level + 1)).intercalate ts =
      c :: r ∧ isSpace c = false ∧ c ≠ ']' := by
    cases h with
    | nil => exact absurd rfl hne
    | cons hfirst _ => exact hfirst.intercalate_opens _ _
  have hlength := length_lineChars '[' ']' level ts
  have hno : ∀ t ∈ ts, '\r' ∉ t :=
    ((List.forall₂_and_left ts xs).mp (h.imp fun _ _ h => ⟨h.noReturn, h⟩)).1
  refine ⟨⟨_, _, rfl, by decide, by decide⟩, fun {fuel rest} hfuel _ => ?_,
    not_mem_lineChars (by decide) (by decide) level hno⟩
  obtain ⟨fuel, rfl⟩ : ∃ f, fuel = f + 1 := ⟨fuel - 1, by omega⟩
  have hitems := readItems_intercalate (isSpace_breakChars (level + 1)) (isSpace_breakChars level)
    rest h hne (show _ ≤ fuel by omega)
  rw [hopens] at hitems
  rw [lineChars_append, hopens]
  exact readValue_list (skipSpace_append (isSpace_breakChars _) hc _) hbracket hitems

/-! ## 6. Objects -/

/-- The text is that of a member: its key, a colon and its value. -/
def IsMember (text : List Char) (e : Data × Data) : Prop :=
  ∃ (key : String) (value : List Char), e.1 = .text key ∧
    text = (writeString key).toList ++ ([':', ' '] ++ value) ∧ IsText value e.2

theorem IsMember.opens {text : List Char} {e : Data × Data} (h : IsMember text e) :
    ∃ t, text = '"' :: t := by
  obtain ⟨key, value, _, rfl, _⟩ := h
  rw [toList_writeString]
  exact ⟨_, rfl⟩

theorem IsMember.noReturn {text : List Char} {e : Data × Data} (h : IsMember text e) :
    '\r' ∉ text := by
  obtain ⟨key, value, _, rfl, hvalue⟩ := h
  simp only [List.mem_append, not_or]
  exact ⟨not_mem_writeString key, by decide, hvalue.noReturn⟩

variable {acc : Entries}

theorem readMembers_key {s r rest key : List Char} {fuel : Nat} {v : Data}
    (hkey : readString s.length.succ s = .ok (key, ':' :: r))
    (hvalue : readValue fuel (skipSpace r) = .ok (v, rest)) :
    readMembers (fuel + 1) acc ('"' :: s) =
      match skipSpace rest with
      | ',' :: r => readMembers fuel (acc.put (.text (String.ofList key)) v) (skipSpace r)
      | '\x7d' :: r => .ok (acc.put (.text (String.ofList key)) v, r)
      | _ => .error .malformed := by
  have hcolon : skipSpace (':' :: r) = ':' :: r := rfl
  rw [readMembers.eq_def]
  simp only [hkey, hcolon]
  generalize readValue fuel (skipSpace r) = read at hvalue ⊢
  subst hvalue
  rfl

/-- **A member is read back**, in front of a comma or a brace. -/
theorem IsMember.read {text r : List Char} {e : Data × Data} {fuel : Nat} (h : IsMember text e)
    (hfuel : 2 * text.length + 1 ≤ fuel) (hr : EndsNumber r) :
    readMembers (fuel + 1) acc (text ++ r) =
      match skipSpace r with
      | ',' :: r => readMembers fuel (acc.put e.1 e.2) (skipSpace r)
      | '\x7d' :: r => .ok (acc.put e.1 e.2, r)
      | _ => .error .malformed := by
  obtain ⟨key, value, hkey, rfl, hvalue⟩ := h
  obtain ⟨c, t, rfl, hc, _⟩ := hvalue.opens
  rw [List.length_append, List.length_append] at hfuel
  have hread := hvalue.read (show 2 * (c :: t).length + 1 ≤ fuel by omega) hr
  have hskip : skipSpace (' ' :: (c :: t ++ r)) = c :: t ++ r :=
    skipSpace_append (List.forall_mem_singleton.mpr (show isSpace ' ' = true from rfl)) hc (t ++ r)
  have hstring := readString_writeString key (':' :: ' ' :: (c :: t ++ r))
  rw [← hskip] at hread
  rw [toList_writeString, List.append_assoc, List.cons_append, List.append_assoc,
    List.singleton_append, List.append_assoc]
  refine (readMembers_key hstring hread).trans ?_
  rw [String.ofList_toList, ← hkey]

/-- A member that another follows is read, and the other after it. -/
theorem IsMember.read_more {text r : List Char} {e : Data × Data} {fuel : Nat} (h : IsMember text e)
    (hfuel : 2 * text.length + 1 ≤ fuel) :
    readMembers (fuel + 1) acc (text ++ ',' :: r) =
      readMembers fuel (acc.put e.1 e.2) (skipSpace r) :=
  h.read hfuel (endsNumber_cons rfl r)

theorem IsMember.read_last {text close rest : List Char} {e : Data × Data} {fuel : Nat}
    (h : IsMember text e) (hfuel : 2 * text.length + 1 ≤ fuel)
    (hclose : ∀ c ∈ close, isSpace c = true) :
    readMembers (fuel + 1) acc (text ++ (close ++ '\x7d' :: rest)) = .ok (acc.put e.1 e.2, rest) := by
  rw [h.read hfuel (endsNumber_append hclose (by decide) rest),
    skipSpace_append hclose (by decide) rest]
  rfl

theorem IsMember.intercalate_opens {t : List Char} {e : Data × Data} (h : IsMember t e)
    (sep : List Char) (ts : List (List Char)) : ∃ r, (',' :: sep).intercalate (t :: ts) = '"' :: r := by
  obtain ⟨r, rfl⟩ := h.opens
  cases ts with
  | nil => exact ⟨r, List.intercalate_singleton⟩
  | cons t ts =>
      rw [List.intercalate_cons_cons, List.append_assoc]
      exact ⟨_, rfl⟩

/-- **Members are read back**, each written after the others. -/
theorem readMembers_intercalate (hsep : ∀ c ∈ sep, isSpace c = true)
    (hclose : ∀ c ∈ close, isSpace c = true) (rest : List Char) :
    ∀ (acc : Entries) {ts : List (List Char)} {es : Entries} {fuel : Nat},
      List.Forall₂ IsMember ts es → es ≠ [] → 2 * ((',' :: sep).intercalate ts).length + 2 ≤ fuel →
      readMembers fuel acc ((',' :: sep).intercalate ts ++ (close ++ '\x7d' :: rest)) =
        .ok (acc.update es, rest)
  | _, [], [], _, _, hne, _ => absurd rfl hne
  | acc, [t], [e], fuel, .cons h .nil, _, hfuel => by
      obtain ⟨fuel, rfl⟩ : ∃ f, fuel = f + 1 := ⟨fuel - 1, by omega⟩
      rw [List.intercalate_singleton] at hfuel ⊢
      exact h.read_last (by omega) hclose
  | acc, t :: t' :: ts, e :: e' :: es, fuel, .cons h hrest, _, hfuel => by
      obtain ⟨fuel, rfl⟩ : ∃ f, fuel = f + 1 := ⟨fuel - 1, by omega⟩
      obtain ⟨r, hopens⟩ := (List.forall₂_cons.mp hrest).1.intercalate_opens sep ts
      rw [List.intercalate_cons_cons] at hfuel ⊢
      rw [List.length_append, List.length_append, List.length_cons] at hfuel
      have ih := readMembers_intercalate hsep hclose rest (acc.put e.1 e.2) hrest
        (List.cons_ne_nil _ _) (show _ ≤ fuel by omega)
      rw [List.append_assoc, List.append_assoc]
      refine (h.read_more (by omega)).trans ?_
      rw [hopens] at ih ⊢
      exact (congrArg (readMembers fuel _) (skipSpace_append hsep rfl _)).trans ih

/-- **An object is read back**, if its members are. -/
theorem isText_mapping {ts : List (List Char)} {es : Entries} (h : List.Forall₂ IsMember ts es)
    (hne : es ≠ []) (hes : areKeyed es = true) (level : Nat) :
    IsText (lineChars '\x7b' '\x7d' level ts) (.mapping es) := by
  obtain ⟨r, hopens⟩ : ∃ r, (',' :: breakChars (level + 1)).intercalate ts = '"' :: r := by
    cases h with
    | nil => exact absurd rfl hne
    | cons hfirst _ => exact hfirst.intercalate_opens _ _
  have hlength := length_lineChars '\x7b' '\x7d' level ts
  have hno : ∀ t ∈ ts, '\r' ∉ t :=
    ((List.forall₂_and_left ts es).mp (h.imp fun _ _ h => ⟨h.noReturn, h⟩)).1
  refine ⟨⟨_, _, rfl, by decide, by decide⟩, fun {fuel rest} hfuel _ => ?_,
    not_mem_lineChars (by decide) (by decide) level hno⟩
  obtain ⟨fuel, rfl⟩ : ∃ f, fuel = f + 1 := ⟨fuel - 1, by omega⟩
  have hmembers := readMembers_intercalate (isSpace_breakChars (level + 1))
    (isSpace_breakChars level) rest [] h hne (show _ ≤ fuel by omega)
  rw [hopens, update_of_new hes fun _ _ => rfl] at hmembers
  rw [lineChars_append, hopens]
  exact readValue_mapping (skipSpace_append (isSpace_breakChars _) rfl _) (by decide) hmembers

/-! ## 7. Values -/

mutual

/-- **The text of every value is read back**, at every level of indentation. -/
theorem exists_writeAt : ∀ (x : Data) (level : Nat), x.isJson isShort = true →
    ∃ text, writeAt level x = .ok text ∧ IsText text.toList x
  | x, level, hx => by
      cases x with
      | list xs =>
          cases xs with
          | nil =>
              refine ⟨_, rfl, ⟨_, _, rfl, by decide, by decide⟩, fun {fuel rest} hfuel _ => ?_,
                by decide⟩
              obtain ⟨fuel, rfl⟩ : ∃ f, fuel = f + 1 := ⟨fuel - 1, by omega⟩
              rfl
          | cons x xs =>
              obtain ⟨hx, hxs⟩ := List.forall_mem_cons.mp (areJson_iff.mp hx)
              obtain ⟨first, hfirst, hread⟩ := exists_writeAt x (level + 1) hx
              obtain ⟨others, hothers, hall⟩ := exists_writeItems xs (level + 1) (areJson_iff.mpr hxs)
              refine ⟨_, except_bind_eq_ok.mpr ⟨first, hfirst,
                except_bind_eq_ok.mpr ⟨others, hothers, rfl⟩⟩, ?_⟩
              rw [toList_lines rfl rfl]
              exact isText_list (.cons hread hall) (List.cons_ne_nil _ _) level
      | mapping es =>
          cases es with
          | nil =>
              refine ⟨_, rfl, ⟨_, _, rfl, by decide, by decide⟩, fun {fuel rest} hfuel _ => ?_,
                by decide⟩
              obtain ⟨fuel, rfl⟩ : ∃ f, fuel = f + 1 := ⟨fuel - 1, by omega⟩
              rfl
          | cons e es =>
              obtain ⟨texts, hwrite, hall⟩ := exists_writeMembers (e :: es) (level + 1) hx
              refine ⟨_, except_bind_eq_ok.mpr ⟨texts, hwrite, rfl⟩, ?_⟩
              rw [toList_lines rfl rfl]
              exact isText_mapping hall (List.cons_ne_nil _ _) (areKeyed_of_areMembers hx) level
      | tuple _ => cases hx
      | _ =>
          unfold writeAt
          exact exists_writeScalar hx (fun _ h => by cases h) (fun _ h => by cases h)

theorem exists_writeItems : ∀ (xs : List Data) (level : Nat), areJson isShort xs = true →
    ∃ texts, writeItems level xs = .ok texts ∧
      List.Forall₂ IsText (texts.map String.toList) xs
  | [], _, _ => ⟨[], rfl, .nil⟩
  | x :: xs, level, h => by
      obtain ⟨hx, hxs⟩ := List.forall_mem_cons.mp (areJson_iff.mp h)
      obtain ⟨first, hfirst, hread⟩ := exists_writeAt x level hx
      obtain ⟨others, hothers, hall⟩ := exists_writeItems xs level (areJson_iff.mpr hxs)
      exact ⟨first :: others, except_bind_eq_ok.mpr ⟨first, hfirst,
        except_bind_eq_ok.mpr ⟨others, hothers, rfl⟩⟩, .cons hread hall⟩

theorem exists_writeMembers : ∀ (es : Entries) (level : Nat), areMembers isShort es = true →
    ∃ texts, writeMembers level es = .ok texts ∧
      List.Forall₂ IsMember (texts.map String.toList) es
  | [], _, _ => ⟨[], rfl, .nil⟩
  | (k, v) :: es, level, h => by
      obtain ⟨⟨key, rfl⟩, _, hv, hes⟩ := areMembers_cons.mp h
      obtain ⟨value, hvalue, hread⟩ := exists_writeAt v level hv
      obtain ⟨others, hothers, hall⟩ := exists_writeMembers es level hes
      refine ⟨(writeString key ++ ": " ++ value) :: others, ?_, .cons ?_ hall⟩
      · exact except_bind_eq_ok.mpr ⟨key, rfl, except_bind_eq_ok.mpr ⟨value, hvalue,
          except_bind_eq_ok.mpr ⟨others, hothers, rfl⟩⟩⟩
      · refine ⟨key, value.toList, rfl, ?_, hread⟩
        rw [String.toList_append, String.toList_append, List.append_assoc]
        rfl

end

/-- **Plain data with a JSON form is written, and what was written is read as it.** There are no
    carriage returns in it. -/
theorem read_write {x : Data} (hx : x.isJson isShort = true) :
    ∃ text, write x = .ok text ∧ read text = .ok x ∧ '\r' ∉ text.toList := by
  obtain ⟨text, hwrite, hread⟩ := exists_writeAt x 0 hx
  obtain ⟨c, t, hopens, hc, _⟩ := hread.opens
  have hvalue := hread.read (show 2 * text.toList.length + 1 ≤ 2 * text.toList.length + 2 by omega)
    (show EndsNumber [] from fun _ h => by cases h)
  have hskip : skipSpace text.toList = text.toList := by
    rw [hopens]
    exact List.dropWhile_cons_of_neg (Bool.eq_false_iff.mp hc)
  refine ⟨text, hwrite, ?_, hread.noReturn⟩
  rw [List.append_nil] at hvalue
  unfold read
  dsimp only
  rw [hskip, hvalue]
  rfl

/-! ## 8. Integers that are too long -/

mutual

theorem writeAt_long : ∀ (x : Data) (level : Nat), x.isJson anySize = true →
    x.isJson isShort = false → writeAt level x = .error .badValue
  | x, level, hx, hlong => by
      cases x with
      | int i =>
          show Data.asText (.int i) = _
          unfold asText
          rw [if_neg (by rw [show (Data.int i).hasText = false from hlong]; decide)]
      | list xs =>
          cases xs with
          | nil => cases hlong
          | cons x xs =>
              have hitems := writeItems_long (x :: xs) (level + 1) hx hlong
              rcases except_bind_eq_error.mp hitems with hfirst | ⟨first, hfirst, hrest⟩
              · exact except_bind_eq_error.mpr (.inl hfirst)
              · refine except_bind_eq_error.mpr (.inr ⟨first, hfirst, except_bind_eq_error.mpr ?_⟩)
                rcases except_bind_eq_error.mp hrest with hrest | ⟨_, _, h⟩
                · exact .inl hrest
                · cases h
      | mapping es =>
          cases es with
          | nil => cases hlong
          | cons e es =>
              exact except_bind_eq_error.mpr (.inl (writeMembers_long (e :: es) (level + 1) hx hlong))
      | float x => cases (show x.isNumber = true from hx).symm.trans (show x.isNumber = false from hlong)
      | null | bool _ | text _ => cases hlong
      | _ => cases hx

theorem writeItems_long : ∀ (xs : List Data) (level : Nat), areJson anySize xs = true →
    areJson isShort xs = false → writeItems level xs = .error .badValue
  | [], _, _, hlong => by cases hlong
  | x :: xs, level, h, hlong => by
      obtain ⟨hx, hxs⟩ := Bool.and_eq_true_iff.mp h
      refine except_bind_eq_error.mpr ?_
      cases hshort : x.isJson isShort with
      | false => exact .inl (writeAt_long x level hx hshort)
      | true =>
          obtain ⟨first, hfirst, _⟩ := exists_writeAt x level hshort
          rw [areJson, hshort, Bool.true_and] at hlong
          exact .inr ⟨first, hfirst,
            except_bind_eq_error.mpr (.inl (writeItems_long xs level hxs hlong))⟩

theorem writeMembers_long : ∀ (es : Entries) (level : Nat), areMembers anySize es = true →
    areMembers isShort es = false → writeMembers level es = .error .badValue
  | [], _, _, hlong => by cases hlong
  | (k, v) :: es, level, h, hlong => by
      obtain ⟨⟨key, rfl⟩, hnew, hv, hes⟩ := areMembers_cons.mp h
      refine except_bind_eq_error.mpr (.inr ⟨key, rfl, except_bind_eq_error.mpr ?_⟩)
      cases hshort : v.isJson isShort with
      | false => exact .inl (writeAt_long v level hv hshort)
      | true =>
          obtain ⟨value, hvalue, _⟩ := exists_writeAt v level hshort
          have hrest : areMembers isShort es = false := by
            rw [Bool.eq_false_iff] at hlong ⊢
            exact fun hes => hlong (areMembers_cons.mpr ⟨⟨key, rfl⟩, hnew, hshort, hes⟩)
          exact .inr ⟨value, hvalue,
            except_bind_eq_error.mpr (.inl (writeMembers_long es level hes hrest))⟩

end

/-- **A value with an integer that is too long has no text.** -/
theorem write_long {x : Data} (hx : x.isJson anySize = true) (hlong : x.isJson isShort = false) :
    write x = .error .badValue :=
  writeAt_long x 0 hx hlong

end DomainGen.Json
