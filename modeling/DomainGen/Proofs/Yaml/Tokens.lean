import DomainGen.Proofs.Except
import DomainGen.Proofs.Number.Digits
import DomainGen.Yaml.Token.Lexer

/-!
# Tokens of a text

Whatever is read of a text, an ending of the text is left. So a reading that fails shows what is wrong
with the text: it is no YAML text, or it holds a number that is too large. Only two places of a text
hold numbers that are read before it is known what they stand for, the escapes in double quotes and the
version of the format.

A text that is read to its end has no token for the rest; any other has one that shows what is wrong. Tags
need an exclamation mark, and a plain scalar ends in no line break.

* `Cursor.In` : a place in a text; `Cursor.In.advance` … : **reading stays in the text**;
* `Unread` : why a text is not read to its end;
* `Scans` : a reading that stays in the text and fails for such a reason;
* `scans_quoted`, `scans_block`, `scans_tag`, `scans_directive` … : **the readings of tokens**;
* `Token.From` : what a token says about a text; `Lexer.From` : a state whose tokens say it;
* `Lexer.steps_readToken`, `Lexer.steps_step` : **one token more keeps this**; `Lexer.from_run` : so do all
  of them;
* `from_tokens` : **the tokens of a text say this about it**.
-/

namespace DomainGen.Yaml

variable {s : List Char} {c : Cursor}

/-! ## 1. Places -/

namespace Cursor

theorem rest_advance (c : Cursor) : c.advance.rest = c.rest.tail := by
  unfold advance
  split
  · rename_i h
    rw [h]
    rfl
  · rename_i h
    rw [h]
    split
    · rfl
    · split <;> rfl

theorem rest_advanceBy : ∀ (n : Nat) (c : Cursor), (c.advanceBy n).rest = c.rest.drop n
  | 0, _ => rfl
  | n + 1, c => by
      rw [advanceBy, rest_advanceBy n, rest_advance, List.drop_tail]

/-- A character that is not the mark of the end is the first one left. -/
theorem rest_of_peek {ch : Char} (h : c.peek = ch) (hend : ch ≠ endMark) :
    c.rest = ch :: c.rest.tail := by
  unfold peek at h
  cases hrest : c.rest with
  | nil =>
      rw [hrest] at h
      exact absurd h.symm hend
  | cons first rest =>
      rw [hrest] at h
      exact congrArg (· :: rest) h

/-- The characters that are left are an ending of the text. -/
def In (s : List Char) (c : Cursor) : Prop := c.rest <:+ s

theorem in_start (s : List Char) : (start s).In s := List.suffix_refl s

namespace In

theorem advance (h : c.In s) : c.advance.In s := by
  unfold In
  rw [rest_advance]
  exact (List.tail_suffix _).trans h

theorem advanceBy (h : c.In s) (n : Nat) : (c.advanceBy n).In s := by
  unfold In
  rw [rest_advanceBy]
  exact (List.drop_suffix n _).trans h

theorem takeSpan (h : c.In s) (test : Char → Bool) : (c.takeSpan test).2.In s := h.advanceBy _

theorem skipBlanks (h : c.In s) : c.skipBlanks.In s := h.takeSpan _

theorem takeBreak (h : c.In s) : c.takeBreak.2.In s := by
  unfold Cursor.takeBreak
  split
  · exact h.advanceBy 2
  · split
    · exact h.advance
    · split
      · exact h.advance
      · exact h
  · exact h

theorem skipComment (h : c.In s) : c.skipComment.In s := by
  unfold Cursor.skipComment
  split
  · exact h.takeSpan _
  · exact h

/-- What is left begins with a part of the text. -/
theorem infix_of_prefix (h : c.In s) {part : List Char} (hpart : part <+: c.rest) : part <:+: s :=
  List.IsInfix.trans hpart.isInfix h.isInfix

/-- A character that is left is one of the text. -/
theorem mem (h : c.In s) {ch : Char} (hch : ch ∈ c.rest) : ch ∈ s := h.subset hch

end In

end Cursor

/-! ## 2. Readings that stay in the text -/

/-- Why a text is not read to its end. An escape in double quotes stands for a number beyond the last
    character, or the version of the format has too many digits, or the text is no YAML text. -/
inductive Unread (s : List Char) : ReadError → Prop where
  | malformed : Unread s .malformed
  | escape {letter : Char} {digits : List Char} {code : Nat}
      (h : '\\' :: letter :: digits <:+: s) (hletter : escapeDigits? letter = some digits.length)
      (hcode : hexNumber? digits = some code) (hbeyond : 0x110000 ≤ code) :
      Unread s (.fault (if code < 0x80000000 then .badValue else .overflow))
  | version {digits : List Char} (h : ['%', 'Y', 'A', 'M', 'L'] <:+: s) (hdigits : digits <:+: s)
      (hall : digits.all Char.isDigit = true) (hlong : maxIntegerDigits < digits.length) :
      Unread s (.fault .badValue)

/-- A reading that stays in the text, and whose failure shows what is wrong with the text. -/
abbrev Scans (s : List Char) {α : Type} (x : Scanned α) : Prop :=
  Yields (fun r => r.2.In s) (Unread s) x

theorem Scans.ok {α : Type} {a : α} (h : c.In s) : Scans s (.ok (a, c)) := Yields.ok h

/-! ## 3. Quoted scalars -/

theorem scans_quotedBreaks : ∀ {fuel : Nat} {c : Cursor}, c.In s →
    Scans s (scanQuotedBreaks fuel c)
  | 0, _, _ => .error .malformed
  | fuel + 1, c, h => by
      have hblank := h.takeSpan fun ch => ch == ' ' || ch == '\t'
      unfold scanQuotedBreaks
      split
      · exact .error .malformed
      · dsimp only
        split
        · split
          · exact .ok ((scans_quotedBreaks hblank.takeBreak).gives _ ‹_›)
          · exact .error ((scans_quotedBreaks hblank.takeBreak).fails _ ‹_›)
        · exact .ok hblank

/-- A code point beyond the last character. -/
theorem charOfCode_eq_error {n : Nat} {e : ReadError} : charOfCode n = .error e ↔
    0x110000 ≤ n ∧ e = .fault (if n < 0x80000000 then .badValue else .overflow) := by
  unfold charOfCode
  split
  · rename_i h
    constructor
    · intro he
      cases he
    · rintro ⟨hbeyond, _⟩
      omega
  · rename_i h
    split
    · exact ⟨fun he => ⟨by omega, (Except.error.inj he).symm⟩, fun he => congrArg Except.error he.2.symm⟩
    · exact ⟨fun he => ⟨by omega, (Except.error.inj he).symm⟩, fun he => congrArg Except.error he.2.symm⟩

/-- An escape, from the character after the backslash. -/
theorem scans_escape (hslash : '\\' :: c.rest <:+ s) : Scans s (scanEscape c) := by
  have h : c.In s := (List.suffix_cons _ _).trans hslash
  unfold scanEscape
  split
  · exact .ok h.advance
  · split
    · rename_i n hletter
      dsimp only
      split
      · exact .error .malformed
      · rename_i hlength
        split
        · exact .error .malformed
        · rename_i code hcode
          split
          · exact .ok (h.advance.advanceBy n)
          · rename_i e herror
            obtain ⟨hbeyond, rfl⟩ := charOfCode_eq_error.mp herror
            have hletters : c.rest = c.peek :: c.advance.rest := by
              rw [Cursor.rest_advance]
              refine Cursor.rest_of_peek rfl fun hend => ?_
              rw [hend] at hletter
              cases hletter
            have htake : (c.advance.rest.take n).length = n := by
              rw [List.length_take] at hlength ⊢
              omega
            have hescape : '\\' :: c.peek :: c.advance.rest.take n <:+: s := by
              refine List.IsInfix.trans (List.IsPrefix.isInfix ?_) hslash.isInfix
              rw [hletters]
              exact (List.prefix_cons_inj _).mpr ((List.prefix_cons_inj _).mpr (List.take_prefix n _))
            exact .error (.escape hescape (hletter.trans (congrArg some htake.symm)) hcode hbeyond)
    · split
      · exact scans_quotedBreaks h.takeBreak
      · exact .error .malformed

theorem scans_quotedRest {double : Bool} : ∀ {fuel : Nat} {c : Cursor}, c.In s →
    Scans s (scanQuotedRest double fuel c)
  | 0, _, _ => .error .malformed
  | fuel + 1, c, h => by
      have hblank := h.takeSpan fun ch => ch == ' ' || ch == '\t'
      have hpart := h.takeSpan fun ch => !(ch == '\'' || ch == '"' || ch == '\\' || isBlankOrEnd ch)
      unfold scanQuotedRest
      dsimp only
      split
      · exact .error .malformed
      split
      · split
        · split
          · exact .ok ((scans_quotedRest (h.advanceBy 2)).gives _ ‹_›)
          · exact .error ((scans_quotedRest (h.advanceBy 2)).fails _ ‹_›)
        · exact .ok h.advance
      split
      · exact .ok h.advance
      split
      · rename_i hslash
        have hpeek : c.peek = '\\' := beq_iff_eq.mp (Bool.and_eq_true_iff.mp hslash).1
        have hrest : c.rest = '\\' :: c.advance.rest := by
          rw [Cursor.rest_advance]
          exact Cursor.rest_of_peek hpeek (by decide)
        have hescape : Scans s (scanEscape c.advance) := scans_escape (hrest ▸ h)
        split
        · rename_i hread
          have hplace := hescape.gives _ hread
          split
          · exact .ok ((scans_quotedRest hplace).gives _ ‹_›)
          · exact .error ((scans_quotedRest hplace).fails _ ‹_›)
        · exact .error (hescape.fails _ ‹_›)
      split
      · split
        · exact .error .malformed
        split
        · split
          · rename_i hread
            have hbreaks := (scans_quotedBreaks hblank.takeBreak).gives _ hread
            split
            · exact .ok ((scans_quotedRest hbreaks).gives _ ‹_›)
            · exact .error ((scans_quotedRest hbreaks).fails _ ‹_›)
          · exact .error ((scans_quotedBreaks hblank.takeBreak).fails _ ‹_›)
        · split
          · exact .ok ((scans_quotedRest hblank).gives _ ‹_›)
          · exact .error ((scans_quotedRest hblank).fails _ ‹_›)
      split
      · split
        · exact .ok ((scans_quotedRest hpart.advance).gives _ ‹_›)
        · exact .error ((scans_quotedRest hpart.advance).fails _ ‹_›)
      · split
        · exact .ok ((scans_quotedRest hpart).gives _ ‹_›)
        · exact .error ((scans_quotedRest hpart).fails _ ‹_›)

theorem scans_quoted {double : Bool} (h : c.In s) : Scans s (scanQuoted double c) := by
  unfold scanQuoted
  split
  · exact .ok ((scans_quotedRest h.advance).gives _ ‹_›)
  · exact .error ((scans_quotedRest h.advance).fails _ ‹_›)

/-! ## 4. Blocks -/

theorem scans_blockHeader (h : c.In s) : Scans s (scanBlockHeader c) := by
  -- the end of the header, wherever its two marks have been read
  have hfinish {chomping : Chomping} {increment : Option Nat} {d : Cursor} (hd : d.In s) : Scans s
      (if increment == some 0 then .error .malformed
        else if d.peek == ' ' || isLineEnd d.peek then
          let d := d.skipBlanks.skipComment
          if isLineEnd d.peek then .ok ((chomping, increment), d.takeBreak.2)
          else .error .malformed
        else .error .malformed : Scanned (Chomping × Option Nat)) := by
    split
    · exact .error .malformed
    · split
      · dsimp only
        split
        · exact .ok hd.skipBlanks.skipComment.takeBreak
        · exact .error .malformed
      · exact .error .malformed
  unfold scanBlockHeader
  dsimp only
  split
  · split
    · exact hfinish h.advance.advance
    · exact hfinish h.advance
  · split
    · split
      · exact hfinish h.advance.advance
      · exact hfinish h.advance
    · exact hfinish h

theorem in_leadingBreaks : ∀ {fuel widest : Nat} {c : Cursor}, c.In s →
    (scanLeadingBreaks fuel widest c).2.2.In s
  | 0, _, _, h => h
  | fuel + 1, widest, c, h => by
      unfold scanLeadingBreaks
      split
      · exact in_leadingBreaks h.takeBreak
      · split
        · exact in_leadingBreaks h.advance
        · exact h

theorem in_skipIndentation {indent : Nat} (h : c.In s) : (skipIndentation indent c).In s :=
  h.advanceBy _

theorem in_blockBreaks {indent : Nat} : ∀ {fuel : Nat} {c : Cursor}, c.In s →
    (scanBlockBreaks indent fuel c).2.In s
  | 0, _, h => h
  | fuel + 1, c, h => by
      unfold scanBlockBreaks
      dsimp only
      split
      · exact in_blockBreaks (in_skipIndentation h).takeBreak
      · exact in_skipIndentation h

theorem in_blockLines {folded : Bool} {indent : Nat} : ∀ {fuel : Nat} {breaks lineBreak : List Char}
    {c : Cursor}, c.In s → (scanBlockLines folded indent fuel breaks lineBreak c).2.2.2.In s
  | 0, _, _, _, h => h
  | fuel + 1, breaks, lineBreak, c, h => by
      have hbreak := (h.takeSpan fun ch => !isLineEnd ch).takeBreak
      unfold scanBlockLines
      dsimp only
      split
      · split
        · exact in_blockLines (in_blockBreaks hbreak)
        · exact in_blockBreaks hbreak
      · exact h

theorem scans_block {folded : Bool} {parent : Int} (h : c.In s) :
    Scans s (scanBlock folded parent c) := by
  unfold scanBlock
  split
  · exact .error ((scans_blockHeader h.advance).fails _ ‹_›)
  · rename_i increment d hheader
    have hd := (scans_blockHeader h.advance).gives _ hheader
    dsimp only
    split
    · exact .ok (in_blockLines (in_leadingBreaks hd))
    · exact .ok (in_blockLines (in_blockBreaks hd))

/-! ## 5. Plain scalars -/

theorem in_plainBreaks : ∀ {fuel : Nat} {c d : Cursor} {found : Option (List Char × Cursor)},
    c.In s → scanPlainBreaks fuel c = (found, d) → d.In s ∧ ∀ r, found = some r → r.2.In s
  | 0, c, d, found, h, hread => by
      cases hread
      exact ⟨h, fun _ hr => nomatch hr⟩
  | fuel + 1, c, d, found, h, hread => by
      unfold scanPlainBreaks at hread
      split at hread
      · exact in_plainBreaks h.advance hread
      · split at hread
        · dsimp only at hread
          split at hread
          · cases hread
            exact ⟨h.takeBreak, fun _ hr => nomatch hr⟩
          · split at hread
            · rename_i more e d' hmore
              cases hread
              obtain ⟨hd, he⟩ := in_plainBreaks h.takeBreak hmore
              refine ⟨hd, ?_⟩
              rintro r hr
              cases hr
              exact he (more, e) rfl
            · rename_i hmore
              cases hread
              exact ⟨(in_plainBreaks h.takeBreak hmore).1, fun _ hr => nomatch hr⟩
        · cases hread
          refine ⟨h, ?_⟩
          rintro r hr
          cases hr
          exact h

theorem in_plainGap (h : c.In s) : (scanPlainGap c).after.In s := by
  have hbreak := (h.takeSpan (· == ' ')).takeBreak
  unfold scanPlainGap
  dsimp only
  split
  · split
    · exact hbreak
    · split
      · rename_i hread
        exact (in_plainBreaks hbreak hread).2 _ rfl
      · rename_i hread
        exact (in_plainBreaks hbreak hread).1
  · exact h.takeSpan _

theorem in_plainParts {flow : Bool} {indent : Int} : ∀ {fuel : Nat} {gap : List Char} {broken : Bool}
    {c : Cursor}, c.In s → (scanPlainParts flow indent fuel gap broken c).2.2.In s
  | 0, _, _, _, h => h
  | fuel + 1, gap, broken, c, h => by
      unfold scanPlainParts
      generalize (if c.peek == '#' then [] else plainSpan flow c.rest) = part
      dsimp only
      split
      · exact h
      · split
        · exact in_plainGap (h.advanceBy _)
        · exact in_plainParts (in_plainGap (h.advanceBy _))

theorem in_plain {flow : Bool} {parent : Int} (h : c.In s) : (scanPlain flow parent c).2.2.In s := by
  unfold scanPlain
  exact in_plainParts h

/-- The characters of a part of a plain scalar break no line. -/
theorem isBreak_of_mem_plainSpan {flow : Bool} : ∀ {l : List Char} {ch : Char},
    ch ∈ plainSpan flow l → isBreak ch = false
  | [], ch, h => absurd h List.not_mem_nil
  | first :: rest, ch, h => by
      unfold plainSpan at h
      split at h
      · exact absurd h List.not_mem_nil
      · rename_i hstops
        rcases List.mem_cons.mp h with rfl | hrest
        · rw [Bool.not_eq_true] at hstops
          unfold stopsPlain isBlankOrEnd isLineEnd at hstops
          simp only [Bool.or_eq_false_iff] at hstops
          exact hstops.1.1.2.2
        · exact isBreak_of_mem_plainSpan hrest

/-- A plain scalar ends with the last of its parts. -/
theorem plainParts_getLast? {flow : Bool} {indent : Int} : ∀ {fuel : Nat} {gap : List Char}
    {broken : Bool} {c : Cursor} {ch : Char},
    (scanPlainParts flow indent fuel gap broken c).1.getLast? = some ch → isBreak ch = false
  | 0, _, _, _, _, h => by cases h
  | fuel + 1, gap, broken, c, ch, h => by
      unfold scanPlainParts at h
      have hpart : ∀ ch ∈ if c.peek == '#' then [] else plainSpan flow c.rest,
          isBreak ch = false := by
        intro ch hch
        split at hch
        · exact absurd hch List.not_mem_nil
        · exact isBreak_of_mem_plainSpan hch
      generalize (if c.peek == '#' then [] else plainSpan flow c.rest) = part at h hpart
      dsimp only at h
      split at h
      · cases h
      · rename_i hne
        have hends (more : List Char) (hmore : ∀ ch, more.getLast? = some ch → isBreak ch = false)
            (h : (gap ++ part ++ more).getLast? = some ch) : isBreak ch = false := by
          cases more with
          | nil =>
              rw [List.append_nil, List.getLast?_append_of_ne_nil gap (by simpa using hne)] at h
              exact hpart ch (List.mem_of_getLast? h)
          | cons x xs =>
              rw [List.getLast?_append_of_ne_nil _ (List.cons_ne_nil x xs)] at h
              exact hmore ch h
        split at h
        · refine hends [] (fun _ hlast => nomatch hlast) ?_
          rw [List.append_nil]
          exact h
        · exact hends _ (fun _ => plainParts_getLast?) h

/-- **A plain scalar ends in no line break.** -/
theorem plain_getLast? {flow : Bool} {parent : Int} {ch : Char}
    (h : (scanPlain flow parent c).1.toList.getLast? = some ch) : isBreak ch = false := by
  unfold scanPlain at h
  rw [String.toList_ofList] at h
  exact plainParts_getLast? h

/-! ## 6. Names and tags -/

theorem scans_anchorName (h : c.In s) : Scans s (scanAnchorName c) := by
  unfold scanAnchorName
  dsimp only
  split
  · exact .error .malformed
  · split
    · exact .ok (h.advance.takeSpan _)
    · exact .error .malformed

theorem scans_tagHandle (h : c.In s) : Scans s (scanTagHandle c) := by
  unfold scanTagHandle
  split
  · exact .error .malformed
  · split
    · exact .ok h.advance
    · dsimp only
      split
      · exact .ok (h.advanceBy _)
      · exact .error .malformed

theorem scans_uriBytes : ∀ {fuel : Nat} {c : Cursor}, c.In s → Scans s (scanUriBytes fuel c)
  | 0, _, _ => .error .malformed
  | fuel + 1, c, h => by
      unfold scanUriBytes
      split
      · split
        · split
          · exact .ok ((scans_uriBytes (h.advanceBy 3)).gives _ ‹_›)
          · exact .error ((scans_uriBytes (h.advanceBy 3)).fails _ ‹_›)
        · exact .error .malformed
      · exact .ok h

theorem scans_uriParts : ∀ {fuel : Nat} {c : Cursor}, c.In s → Scans s (scanUriParts fuel c)
  | 0, _, _ => .error .malformed
  | fuel + 1, c, h => by
      have hspan := h.takeSpan fun ch => isUriChar ch && ch != '%'
      unfold scanUriParts
      split
      · split
        · exact .error ((scans_uriBytes h).fails _ ‹_›)
        · rename_i bytes d hread
          have hd := (scans_uriBytes h).gives _ hread
          split
          · exact .error .malformed
          · split
            · exact .ok ((scans_uriParts hd).gives _ ‹_›)
            · exact .error ((scans_uriParts hd).fails _ ‹_›)
      · dsimp only
        split
        · exact .ok hspan
        · split
          · exact .ok ((scans_uriParts hspan).gives _ ‹_›)
          · exact .error ((scans_uriParts hspan).fails _ ‹_›)

theorem scans_tagUri (h : c.In s) : Scans s (scanTagUri c) := by
  unfold scanTagUri
  split
  · exact .error .malformed
  · split
    · exact .ok ((scans_uriParts h).gives _ ‹_›)
    · exact .error ((scans_uriParts h).fails _ ‹_›)

theorem scans_tag (h : c.In s) : Scans s (scanTag c) := by
  unfold scanTag
  extract_lets word handle read
  have hhandle : Scans s handle := by
    unfold handle
    split
    · exact scans_tagHandle h
    · exact .ok h.advance
  clear_value handle
  have hread : Scans s read := by
    unfold read
    split
    · split
      · exact .error ((scans_tagUri (h.advanceBy 2)).fails _ ‹_›)
      · rename_i d hd
        split
        · exact .ok ((scans_tagUri (h.advanceBy 2)).gives _ hd).advance
        · exact .error .malformed
    · split
      · exact .ok h.advance
      · split
        · exact .error (hhandle.fails _ rfl)
        · have hname := hhandle.gives _ rfl
          split
          · exact .error ((scans_tagUri hname).fails _ ‹_›)
          · exact .ok ((scans_tagUri hname).gives _ ‹_›)
  clear_value read
  split
  · exact .error (hread.fails _ rfl)
  · split
    · exact .ok (hread.gives _ rfl)
    · exact .error .malformed

/-! ## 7. Directives -/

theorem scans_directiveEnd {d : Directive} (h : c.In s) : Scans s (Lexer.directiveEnd d c) := by
  unfold Lexer.directiveEnd
  dsimp only
  split
  · exact .ok h.skipBlanks.skipComment.takeBreak
  · exact .error .malformed

theorem scans_versionNumber (h : c.In s) (hmark : ['%', 'Y', 'A', 'M', 'L'] <:+: s) :
    Scans s (Lexer.versionNumber c) := by
  have hall : (c.rest.takeWhile Char.isDigit).all Char.isDigit = true := List.all_takeWhile
  unfold Lexer.versionNumber Cursor.takeSpan
  dsimp only
  split
  · exact .error .malformed
  · rename_i hne
    split
    · exact .ok (h.advanceBy _)
    · rename_i hnone
      have hdigits := fun ch hch => countsIn_ten (List.all_eq_true.mp hall ch hch)
      rcases (readInteger?_eq_none hdigits).mp hnone with hnil | ⟨_, hlong⟩
      · exact absurd (List.isEmpty_iff.mpr hnil) hne
      · exact .error
          (.version hmark (h.infix_of_prefix (List.takeWhile_prefix _)) hall hlong)

theorem scans_versionValue (h : c.In s) (hmark : ['%', 'Y', 'A', 'M', 'L'] <:+: s) :
    Scans s (Lexer.versionValue c) := by
  unfold Lexer.versionValue
  refine (scans_versionNumber h.skipBlanks hmark).bind ?_
  rintro ⟨major, d⟩ hd
  dsimp only
  split
  · exact .error .malformed
  · refine (scans_versionNumber hd.advance hmark).bind ?_
    rintro ⟨minor, d⟩ hd
    dsimp only
    split
    · exact .ok hd
    · exact .error .malformed

theorem scans_handleValue (h : c.In s) : Scans s (Lexer.handleValue c) := by
  unfold Lexer.handleValue
  refine (scans_tagHandle h.skipBlanks).bind ?_
  rintro ⟨name, d⟩ hd
  dsimp only
  split
  · exact .error .malformed
  · refine (scans_tagUri hd.skipBlanks).bind ?_
    rintro ⟨beginning, d⟩ hd
    dsimp only
    split
    · exact .ok hd
    · exact .error .malformed

theorem scans_directive (h : c.In s) (hpeek : c.peek = '%') : Scans s (Lexer.scanDirective c) := by
  have hrest : c.rest = '%' :: c.advance.rest := by
    rw [Cursor.rest_advance]
    exact Cursor.rest_of_peek hpeek (by decide)
  unfold Lexer.scanDirective Cursor.takeSpan
  dsimp only
  have hname := h.advance.advanceBy (c.advance.rest.takeWhile isNameChar).length
  split
  · exact .error .malformed
  · split
    · rename_i hyaml
      have hmark : ['%', 'Y', 'A', 'M', 'L'] <:+: s := by
        refine h.infix_of_prefix ?_
        rw [hrest]
        refine (List.prefix_cons_inj '%').mpr ?_
        have htext : c.advance.rest.takeWhile isNameChar = ['Y', 'A', 'M', 'L'] :=
          String.ofList_injective hyaml
        rw [← htext]
        exact List.takeWhile_prefix _
      exact (scans_versionValue hname hmark).bind fun r hr => scans_directiveEnd hr
    · exact (scans_handleValue hname).bind fun r hr => scans_directiveEnd hr
    · exact (Yields.ok (hname.advanceBy _)).bind fun r hr => scans_directiveEnd hr

/-! ## 8. What tokens say -/

/-- What a token says about the text it was read from: it has an exclamation mark before a tag; what
    stands at the end of a plain scalar breaks no line; the text is as broken as the token tells. -/
def Token.From (s : List Char) : Token → Prop
  | .tag _ _ => '!' ∈ s
  | .scalar text true => ∀ ch, text.toList.getLast? = some ch → isBreak ch = false
  | .broken e => Unread s e
  | _ => True

namespace Lexer

variable {l : Lexer}

/-- A state at a place of the text, after tokens of it. -/
structure From (s : List Char) (l : Lexer) : Prop where
  place : l.cursor.In s
  tokens : ∀ t ∈ l.read, t.From s

theorem from_start (s : List Char) : (start s).From s :=
  ⟨Cursor.in_start s, fun _ ht => absurd ht List.not_mem_nil⟩

/-- Another step of the lexer, which fails as the text is broken. -/
abbrev Steps (s : List Char) (x : Except ReadError Lexer) : Prop := Yields (From s) (Unread s) x

namespace From

theorem push (h : l.From s) {t : Token} (ht : t.From s) : (l.push t).From s :=
  ⟨h.place, List.forall_mem_cons.mpr ⟨ht, h.tokens⟩⟩

theorem insert (h : l.From s) {t : Token} (ht : t.From s) {before : Nat} :
    (l.insert before t).From s := by
  refine ⟨h.place, ?_⟩
  unfold Lexer.insert
  dsimp only
  rw [List.forall_mem_append, List.forall_mem_cons]
  exact ⟨fun _ hu => h.tokens _ (List.mem_of_mem_take hu), ht,
    fun _ hu => h.tokens _ (List.mem_of_mem_drop hu)⟩

theorem take (h : l.From s) {t : Token} (ht : t.From s) {n : Nat} : (l.take n t).From s :=
  ⟨h.place.advanceBy n, (h.push ht).tokens⟩

theorem forgetKey (h : l.From s) : l.forgetKey.From s := ⟨h.place, h.tokens⟩

theorem openAt (h : l.From s) (column : Nat) : (l.openAt column).1.From s := by
  unfold Lexer.openAt
  split
  · exact ⟨h.place, h.tokens⟩
  · exact h

theorem skipMark (h : l.From s) : l.skipMark.From s := by
  unfold Lexer.skipMark
  split
  · exact ⟨h.place.advance, h.tokens⟩
  · exact h

theorem skipToToken : ∀ {fuel : Nat} {l : Lexer}, l.From s → (l.skipToToken fuel).From s
  | 0, _, h => h
  | fuel + 1, l, h => by
      unfold Lexer.skipToToken
      dsimp only
      split
      · exact skipToToken ⟨h.place.skipBlanks.skipComment.takeBreak, h.tokens⟩
      · exact ⟨h.place.skipBlanks.skipComment, h.tokens⟩

end From

theorem from_closeTo {column : Int} : ∀ {indent : Int} {outer : List Int} {read : List Token},
    (∀ t ∈ read, t.From s) → ∀ t ∈ (closeTo column indent outer read).2.2, t.From s
  | _, [], _, h => h
  | indent, next :: outer, read, h => by
      unfold closeTo
      split
      · exact from_closeTo (List.forall_mem_cons.mpr ⟨trivial, h⟩)
      · exact h

theorem From.unindent (h : l.From s) (column : Int) : (l.unindent column).From s := by
  unfold Lexer.unindent
  split
  · exact h
  · exact ⟨h.place, from_closeTo h.tokens⟩

/-! ## 9. Keys -/

theorem steps_dropKey (h : l.From s) : Steps s l.dropKey := by
  unfold dropKey
  split
  · split
    · exact .error .malformed
    · exact .ok h.forgetKey
  · exact .ok h

theorem steps_saveKey (h : l.From s) : Steps s l.saveKey := by
  unfold saveKey
  split
  · split
    · exact .error ((steps_dropKey h).fails _ ‹_›)
    · rename_i l' hdrop
      have hl' := (steps_dropKey h).gives _ hdrop
      exact .ok ⟨hl'.place, hl'.tokens⟩
  · exact .ok h

theorem steps_dropStale (h : l.From s) : Steps s l.dropStale := by
  unfold dropStale
  split
  · exact .error .malformed
  · exact .ok ⟨h.place, h.tokens⟩

/-! ## 10. One token -/

theorem steps_atDocumentLevel (h : l.From s) : Steps s l.atDocumentLevel := by
  unfold atDocumentLevel
  refine Yields.bind (steps_dropKey (h.unindent _)) fun l hl => ?_
  exact .ok ⟨hl.place, hl.tokens⟩

theorem steps_openFlow (h : l.From s) {t : Token} (ht : t.From s) : Steps s (l.openFlow t) := by
  unfold openFlow
  refine Yields.bind (steps_saveKey h) fun l hl => ?_
  refine .ok (From.take ?_ ht)
  exact ⟨hl.place, hl.tokens⟩

theorem steps_closeFlow (h : l.From s) {t : Token} (ht : t.From s) : Steps s (l.closeFlow t) := by
  unfold closeFlow
  refine Yields.bind (steps_dropKey h) fun l hl => ?_
  split
  · exact .error .malformed
  · refine .ok (From.take ?_ ht)
    exact ⟨hl.place, hl.tokens⟩

theorem steps_openBlock (h : l.From s) {t : Token} (ht : t.From s) : Steps s (l.openBlock t) := by
  unfold openBlock
  split
  · exact .ok h
  split
  · exact .error .malformed
  · refine .ok ?_
    split
    · exact (h.openAt _).push ht
    · exact h.openAt _

theorem steps_blockEntry (h : l.From s) : Steps s l.blockEntry := by
  unfold blockEntry
  refine Yields.bind (steps_openBlock h trivial) fun l hl => ?_
  refine Yields.bind (steps_dropKey ⟨hl.place, hl.tokens⟩) fun l hl => ?_
  exact .ok (hl.take (by trivial))

theorem steps_keyMark (h : l.From s) : Steps s l.keyMark := by
  unfold keyMark
  refine Yields.bind (steps_openBlock h trivial) fun l hl => ?_
  refine Yields.bind (steps_dropKey ⟨hl.place, hl.tokens⟩) fun l hl => ?_
  exact .ok (hl.take (by trivial))

theorem steps_valueMark (h : l.From s) : Steps s l.valueMark := by
  unfold valueMark
  split
  · rename_i k _
    have hkey : (l.forgetKey.insert k.before .key).From s := h.forgetKey.insert (by trivial)
    have hopen (l' : Lexer) (hl' : l'.From s) :
        (if l'.flow == 0 then l'.openAt k.column else (l', false)).1.From s := by
      split
      · exact hl'.openAt _
      · exact hl'
    have hblock (opened : Lexer × Bool) (hl' : opened.1.From s) :
        (if opened.2 then opened.1.insert k.before .blockMappingStart else opened.1).From s := by
      split
      · exact hl'.insert (by trivial)
      · exact hl'
    have hbegun := hblock _ (hopen _ hkey)
    refine .ok (From.take ?_ (by trivial))
    exact ⟨hbegun.place, hbegun.tokens⟩
  · refine Yields.bind (steps_openBlock h trivial) fun l hl => ?_
    refine Yields.bind (steps_dropKey ⟨hl.place, hl.tokens⟩) fun l hl => ?_
    exact .ok (hl.take (by trivial))

/-- A token that a key may begin with. -/
theorem steps_keyToken (h : l.From s) {scan : Cursor → Scanned Token}
    (hscan : ∀ c : Cursor, c.In s → Yields (fun r => r.1.From s ∧ r.2.In s) (Unread s) (scan c)) :
    Steps s (l.keyToken scan) := by
  unfold keyToken
  refine Yields.bind (steps_saveKey h) fun l hl => ?_
  refine (hscan _ hl.place).bind fun r hr => ?_
  exact .ok ⟨hr.2, (hl.push hr.1).tokens⟩

theorem steps_plainScalar (h : l.From s) : Steps s l.plainScalar := by
  unfold plainScalar
  refine Yields.bind (steps_saveKey h) fun l hl => ?_
  exact .ok ⟨in_plain hl.place, (hl.push (t := .scalar _ true) fun _ => plain_getLast?).tokens⟩

theorem steps_blockScalar {folded : Bool} (h : l.From s) : Steps s (blockScalar folded l) := by
  unfold blockScalar
  refine Yields.bind (steps_dropKey ⟨h.place, h.tokens⟩) fun l hl => ?_
  refine (scans_block hl.place).bind fun r hr => ?_
  exact .ok ⟨hr, (hl.push (t := .scalar r.1 false) trivial).tokens⟩

theorem steps_anchorName (h : l.From s) {make : String → Token} (hmake : ∀ name, (make name).From s) :
    Steps s (l.keyToken fun c => (scanAnchorName c).map fun r => (make r.1, r.2)) := by
  refine steps_keyToken h fun c hc => ?_
  refine (scans_anchorName hc).map fun r hr => ?_
  exact ⟨hmake r.1, hr⟩

/-- **Each token that is read says this about the text.** -/
theorem steps_readToken (h : l.From s) : Steps s l.readToken := by
  have hfirst {ch : Char} (hch : (l.cursor.peek == ch) = true) (hend : ch ≠ endMark) : ch ∈ s := by
    refine h.place.mem ?_
    rw [Cursor.rest_of_peek (beq_iff_eq.mp hch) hend]
    exact List.mem_cons_self
  unfold readToken
  refine .ite (fun hpercent => ?_) fun _ => ?_
  · have hpeek := beq_iff_eq.mp (Bool.and_eq_true_iff.mp hpercent).1
    refine Yields.bind (steps_atDocumentLevel h) fun l' hl' => ?_
    refine Yields.bind (scans_directive h.place hpeek) fun r hr => ?_
    exact .ok ⟨hr, (hl'.push (t := .directive r.1) trivial).tokens⟩
  refine .ite (fun _ => ?_) fun _ => ?_
  · refine Yields.bind (steps_atDocumentLevel h) fun l' hl' => ?_
    refine .ok (hl'.take ?_)
    split
    · trivial
    · trivial
  refine .ite (fun _ => steps_openFlow h trivial) fun _ => ?_
  refine .ite (fun _ => steps_openFlow h trivial) fun _ => ?_
  refine .ite (fun _ => steps_closeFlow h trivial) fun _ => ?_
  refine .ite (fun _ => steps_closeFlow h trivial) fun _ => ?_
  refine .ite (fun _ => ?_) fun _ => ?_
  · refine Yields.bind (steps_dropKey ⟨h.place, h.tokens⟩) fun l hl => ?_
    exact .ok (hl.take (by trivial))
  refine .ite (fun _ => steps_blockEntry h) fun _ => ?_
  refine .ite (fun _ => steps_keyMark h) fun _ => ?_
  refine .ite (fun _ => steps_valueMark h) fun _ => ?_
  refine .ite (fun _ => steps_anchorName h fun _ => trivial) fun _ => ?_
  refine .ite (fun _ => steps_anchorName h fun _ => trivial) fun _ => ?_
  refine .ite (fun hmark => ?_) fun _ => ?_
  · refine steps_keyToken h fun c hc => ?_
    refine (scans_tag hc).map fun r hr => ?_
    exact ⟨hfirst hmark (by decide), hr⟩
  refine .ite (fun _ => steps_blockScalar h) fun _ => ?_
  refine .ite (fun _ => steps_blockScalar h) fun _ => ?_
  refine .ite (fun _ => ?_) fun _ => ?_
  · refine steps_keyToken h fun c hc => ?_
    refine (scans_quoted hc).map fun r hr => ?_
    exact ⟨trivial, hr⟩
  exact .ite (fun _ => steps_plainScalar h) fun _ => .error .malformed

/-- **So does each step.** -/
theorem steps_step (h : l.From s) : Yields (fun r => r.1.From s) (Unread s) l.step := by
  unfold step
  refine Yields.bind (steps_dropStale h.skipMark.skipToToken) fun l hl => ?_
  have hlevel := hl.unindent l.cursor.column
  dsimp only
  refine .ite (fun _ => ?_) fun _ => ?_
  · refine Yields.bind (steps_dropKey (hlevel.unindent (-1))) fun l hl => ?_
    exact .ok hl
  · refine Yields.bind (steps_readToken hlevel) fun l hl => ?_
    exact .ok hl

/-! ## 11. All tokens -/

section

-- what a step does is not looked into here
attribute [local irreducible] step

theorem run_succ (fuel : Nat) (l : Lexer) : l.run (fuel + 1) = match l.step with
    | .ok (l, true) => l.read.reverse
    | .ok (l, false) => l.run fuel
    | .error e => (Token.broken e :: l.read).reverse := rfl

end

/-- **So do all of them.** -/
theorem from_run {fuel : Nat} (h : l.From s) {t : Token} (ht : t ∈ l.run fuel) : t.From s := by
  induction fuel generalizing l with
  | zero =>
      rcases List.mem_cons.mp (List.mem_reverse.mp ht) with rfl | ht
      · exact Unread.malformed
      · exact h.tokens t ht
  | succ fuel ih =>
      rw [run_succ] at ht
      split at ht
      · rename_i l' hstep
        exact ((steps_step h).gives _ hstep).tokens t (List.mem_reverse.mp ht)
      · rename_i l' hstep
        exact ih ((steps_step h).gives _ hstep) ht
      · rename_i e hstep
        rcases List.mem_cons.mp (List.mem_reverse.mp ht) with rfl | ht
        · exact (steps_step h).fails e hstep
        · exact h.tokens t ht

end Lexer

/-- **What the tokens of a text say about it.** -/
theorem from_tokens {t : Token} (h : t ∈ tokens s) : t.From s := by
  unfold tokens at h
  split at h
  · exact Lexer.from_run (Lexer.from_start s) h
  · rw [List.mem_singleton.mp h]
    exact Unread.malformed

end DomainGen.Yaml
