import DomainGen.Proofs.Except
import DomainGen.Template.Builtin
import DomainGen.Template.Preparation

/-!
# Reading the sources of templates

The built-in templates are texts of lines, taken apart into segments, read into parts, and prepared.
What they read as is computed here and in the modules on single templates, step by step.

* `segments_lines` : the segments of some lines, found without putting the lines together first;
* `ofSource_eq_ok` : what a source that is a template has passed;
* `readParts_text`, `readParts_statement`, `prepareParts_cons` : reading and preparing one part after
  the other.
-/

namespace DomainGen.Template

open Text

deriving instance DecidableEq for Lexeme, Token, Segment

/-! ## 1. Segments -/

/-- The characters of some lines, each with its line end. -/
def lineChars (ls : List (List Char)) : List Char :=
  ls.flatMap (· ++ ['\n'])

/-- The characters of lines of which each is given by its characters. -/
theorem toList_lines {ls : List String} {cs : List (List Char)}
    (h : List.Forall₂ (fun l c => l = String.ofList c) ls cs) :
    (Builtin.lines ls).toList = lineChars cs := by
  unfold Builtin.lines lineChars
  rw [String.toList_join, List.flatMap_map]
  induction h with
  | nil => rfl
  | cons hl _ ih =>
      rw [List.flatMap_cons, List.flatMap_cons, ih, hl, String.toList_append, String.toList_ofList]
      rfl

/-- **The segments of some lines**, found from the characters of the lines: to evaluate a text of
    several lines takes longer than to read it. -/
theorem segments_lines {ls : List String} {cs : List (List Char)}
    (h : List.Forall₂ (fun l c => l = String.ofList c) ls cs) : segments (Builtin.lines ls) =
      segmentsFrom ((unifyLineEnds (lineChars cs)).length + 1) true 1
        (unifyLineEnds (lineChars cs)) := by
  unfold segments
  rw [toList_lines h]

/-! ## 2. Parts -/

/-- A source that is a template was read and prepared. -/
theorem ofSource_eq_ok {name : Option String} {escaping : Bool} {source : String} {t : Template}
    (h : ofSource name escaping source = .ok t) : ∃ parts, readSource source = .ok parts ∧
      prepareParts escaping false parts = .ok t.parts ∧ t.escaping = escaping := by
  unfold ofSource at h
  obtain ⟨parts, hread, h⟩ := except_bind_eq_ok.mp h
  obtain ⟨prepared, hprepared, h⟩ := except_bind_eq_ok.mp h
  dsimp only at h
  split at h
  · cases h
  · split at h
    · cases h
    · cases h
      exact ⟨parts, hread, hprepared, rfl⟩

variable {stops : List String} {depth : Depth} {fuel : Nat} {rest rest' : List Segment}
  {ps : List Part} {ending : Ending}

/-- Reading a text and what follows it. -/
theorem readParts_text {s : String}
    (h : readParts stops depth (fuel + 1) (.text s :: rest) = .ok (ps, ending, rest')) :
    ∃ more, readParts stops depth fuel rest = .ok (more, ending, rest') ∧ ps = .text s :: more := by
  unfold readParts at h
  obtain ⟨⟨more, _, _⟩, hmore, heq⟩ := except_bind_eq_ok.mp h
  cases heq
  exact ⟨more, hmore, rfl⟩

/-- Reading a statement that has been read, and what follows it. -/
theorem readParts_statement {word : String} {line : Nat} {tail : List Token} {p : Part}
    {after : List Segment} (hword : stops.contains word = false)
    (hp : readStatement word tail depth fuel rest = .ok (p, after))
    (h : readParts stops depth (fuel + 1) (.statement (⟨.name word, line⟩ :: tail) :: rest) =
      .ok (ps, ending, rest')) :
    ∃ more, readParts stops depth fuel after = .ok (more, ending, rest') ∧ ps = p :: more := by
  unfold readParts at h
  dsimp only at h
  rw [hword, if_neg Bool.false_ne_true] at h
  obtain ⟨_, hread, h⟩ := except_bind_eq_ok.mp h
  obtain rfl := Except.ok.inj (hread.symm.trans hp)
  obtain ⟨⟨more, _, _⟩, hmore, heq⟩ := except_bind_eq_ok.mp h
  cases heq
  exact ⟨more, hmore, rfl⟩

/-- Preparing a part that has been prepared, and what follows it. -/
theorem prepareParts_cons {escaping inChoice : Bool} {p p' : Part} {qs : List Part}
    (hp : p.prepare escaping inChoice = .ok p')
    (h : prepareParts escaping inChoice (p :: ps) = .ok qs) :
    ∃ more, prepareParts escaping inChoice ps = .ok more ∧ qs = p' :: more := by
  unfold prepareParts at h
  obtain ⟨_, hprepared, h⟩ := except_bind_eq_ok.mp h
  obtain rfl := Except.ok.inj (hprepared.symm.trans hp)
  obtain ⟨more, hmore, heq⟩ := except_bind_eq_ok.mp h
  cases heq
  exact ⟨more, hmore, rfl⟩

end DomainGen.Template
