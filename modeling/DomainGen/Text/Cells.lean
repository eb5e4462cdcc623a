import DomainGen.Text.Cells.Table

/-!
# Terminal cells

How many columns a text takes on a terminal. Wide and full-width characters take two, marks, format
and control characters take none, all others take one. Two characters act on their neighbours: the
joiner hides the character after it, and the picture sign makes some narrow characters before it
wide.

* `cells` : the columns of a text;
* `graphemes` : the pieces a text may be cut into;
* `cropTo` : the beginning of a text that fits into some columns.
-/

namespace DomainGen.Text

/-! ## 1. Characters -/

/-- Is it a control character? -/
def isControl (c : Char) : Bool :=
  c.toNat < 32 || (127 ≤ c.toNat && c.toNat < 160)

/-- Columns one character takes. -/
def cellWidth (c : Char) : Nat :=
  if isControl c then 0
  else if c.toNat < 128 then 1
  else if Progression.any zeroWidthRanges c.toNat then 0
  else if Progression.any wideRanges c.toNat then 2
  else 1

/-- The joiner: the character after it is shown as a part of the one before it. -/
def joiner : Char := '\u200d'

/-- The picture sign: the character before it is shown as a picture. -/
def pictureSign : Char := '\ufe0f'

/-- Does a picture of the character take one column more than the character? -/
def widens (last : Option Char) : Bool :=
  last.any fun c => Progression.any picturedRanges c.toNat

/-! ## 2. Texts -/

/-- Columns some characters take. `hidden` says that the next one is hidden, and `last` is the
    character a picture sign acts on. -/
def cellsFrom : (hidden : Bool) → (last : Option Char) → List Char → Nat
  | _, _, [] => 0
  | true, last, _ :: rest => cellsFrom false last rest
  | false, last, c :: rest =>
    if c == joiner then cellsFrom true last rest
    else if c == pictureSign then (if widens last then 1 else 0) + cellsFrom false none rest
    else if cellWidth c == 0 then cellsFrom false last rest
    else cellWidth c + cellsFrom false (some c) rest

/-- Columns some characters take. -/
def cellsOf (s : List Char) : Nat :=
  cellsFrom false none s

/-- Columns a text takes. -/
def cells (s : String) : Nat :=
  cellsOf s.toList

/-- Does a text end in a joiner that acts on what comes next? -/
def endsHiding : (hidden : Bool) → List Char → Bool
  | hidden, [] => hidden
  | true, _ :: rest => endsHiding false rest
  | false, c :: rest => endsHiding (c == joiner) rest

/-! ## 3. Cutting -/

/-- Characters that are shown together. -/
structure Grapheme where
  /-- The characters. -/
  chars : List Char
  /-- The columns they take. -/
  width : Nat
  deriving DecidableEq, Repr, Inhabited

/-- The graphemes of a text, after those before it (the last one first). -/
def graphemesFrom : (before : List Grapheme) → (hidden : Bool) → (last : Option Char) →
    List Char → List Grapheme
  | before, _, _, [] => before.reverse
  | [], _, last, c :: rest =>
    let width := if c == joiner || c == pictureSign then 0 else cellWidth c
    graphemesFrom [⟨[c], width⟩] false (if width == 0 then last else some c) rest
  | g :: before, true, last, c :: rest =>
    graphemesFrom (⟨g.chars ++ [c], g.width⟩ :: before) false last rest
  | g :: before, false, last, c :: rest =>
    let joined := g.chars ++ [c]
    if c == joiner then graphemesFrom (⟨joined, g.width⟩ :: before) true last rest
    else if c == pictureSign then
      if widens last then graphemesFrom (⟨joined, g.width + 1⟩ :: before) false none rest
      else graphemesFrom (⟨joined, g.width⟩ :: before) false last rest
    else if cellWidth c == 0 then graphemesFrom (⟨joined, g.width⟩ :: before) false last rest
    else graphemesFrom (⟨[c], cellWidth c⟩ :: g :: before) false (some c) rest

/-- The graphemes of a text. -/
def graphemes (s : List Char) : List Grapheme :=
  graphemesFrom [] false none s

/-- The graphemes that fit into some columns; a blank stands for one that fits in part. -/
def cropGraphemes : (columns : Nat) → List Grapheme → List Char
  | _, [] => []
  | columns, g :: rest =>
    if columns == 0 then []
    else if columns < g.width then [' ']
    else g.chars ++ cropGraphemes (columns - g.width) rest

/-- The beginning of a text that fits into some columns. -/
def cropTo (columns : Nat) (s : List Char) : List Char :=
  cropGraphemes columns (graphemes s)

/-! ## 4. Blanks -/

/-- Blanks take one column each, except for one that is hidden. -/
theorem cellsFrom_replicate_blank (hidden : Bool) (last : Option Char) (n : Nat) :
    cellsFrom hidden last (List.replicate n ' ') = if hidden then n - 1 else n := by
  have step : ∀ (last : Option Char) (m : Nat),
      cellsFrom false last (List.replicate m ' ') = m := by
    intro last m
    induction m generalizing last with
    | zero => rfl
    | succ m ih =>
      simp only [List.replicate_succ, cellsFrom, joiner, pictureSign, ih,
        show cellWidth ' ' = 1 from by decide]
      simp
      omega
  cases hidden with
  | false => simp [step]
  | true =>
    cases n with
    | zero => rfl
    | succ n => simp [List.replicate_succ, cellsFrom, step]

/-- **Blanks after a text take one column each**, but for the first if the text ends in a
    joiner. -/
theorem cellsFrom_append_blanks (n : Nat) : ∀ (hidden : Bool) (last : Option Char) (s : List Char),
    cellsFrom hidden last (s ++ List.replicate n ' ')
      = cellsFrom hidden last s + if endsHiding hidden s then n - 1 else n
  | hidden, last, [] => by
    cases hidden <;> simp [cellsFrom_replicate_blank, endsHiding, cellsFrom]
  | true, last, c :: rest => by
    rw [List.cons_append, cellsFrom, cellsFrom, cellsFrom_append_blanks n false last rest]
    rfl
  | false, last, c :: rest => by
    have he : endsHiding false (c :: rest) = endsHiding (c == joiner) rest := rfl
    rw [he]
    simp only [List.cons_append, cellsFrom]
    by_cases hj : (c == joiner) = true
    · simp only [hj, if_true, cellsFrom_append_blanks n true last rest]
    · simp only [hj, Bool.false_eq_true, if_false, cellsFrom_append_blanks n false none rest,
        cellsFrom_append_blanks n false last rest, cellsFrom_append_blanks n false (some c) rest]
      split
      · omega
      · split <;> omega

/-- A character that no picture sign widens may as well not be there. -/
theorem cellsFrom_last {a b : Option Char} (ha : widens a = false) (hb : widens b = false) :
    ∀ (hidden : Bool) (s : List Char), cellsFrom hidden a s = cellsFrom hidden b s
  | _, [] => by simp only [cellsFrom]
  | true, _ :: rest => by simp only [cellsFrom, cellsFrom_last ha hb false rest]
  | false, c :: rest => by
    simp only [cellsFrom, cellsFrom_last ha hb true rest, cellsFrom_last ha hb false rest, ha, hb]

/-- Blanks before a text take one column each. -/
theorem cellsOf_blanks_append (n : Nat) (s : List Char) :
    cellsOf (List.replicate n ' ' ++ s) = n + cellsOf s := by
  have step : ∀ (m : Nat) (last : Option Char), widens last = false →
      cellsFrom false last (List.replicate m ' ' ++ s) = m + cellsFrom false none s := by
    intro m
    induction m with
    | zero =>
      intro last h
      simpa using cellsFrom_last h (b := none) rfl false s
    | succ m ih =>
      intro last _
      simp only [List.replicate_succ, List.cons_append, cellsFrom, joiner, pictureSign,
        ih (some ' ') (by decide), show cellWidth ' ' = 1 from by decide]
      simp
      omega
  exact step n none rfl

end DomainGen.Text
