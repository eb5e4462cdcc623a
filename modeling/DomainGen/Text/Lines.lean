/-!
# Lines

Reading text from a file turns each of the three line ends into a line feed (`unifyLineEnds`), and
the splitting functions cut at single characters.
-/

namespace DomainGen.Text

/-- Every carriage return, with the line feed after it if there is one, becomes a line feed. -/
def unifyLineEnds : List Char → List Char
  | [] => []
  | '\r' :: '\n' :: rest => '\n' :: unifyLineEnds rest
  | '\r' :: rest => '\n' :: unifyLineEnds rest
  | c :: rest => c :: unifyLineEnds rest

/-- The pieces of a text between the occurrences of a character: one more than there are
    occurrences. -/
def splitAt (sep : Char) : List Char → List (List Char)
  | [] => [[]]
  | c :: rest =>
    match splitAt sep rest with
    | [] => [[]]
    | piece :: pieces => if c == sep then [] :: piece :: pieces else (c :: piece) :: pieces

/-- The pieces of a text between the characters that pass a test. -/
def cutWhere (test : Char → Bool) : List Char → List (List Char)
  | [] => [[]]
  | c :: rest =>
    match cutWhere test rest with
    | [] => [[]]
    | piece :: pieces => if test c then [] :: piece :: pieces else (c :: piece) :: pieces

/-- Does the character end a line wherever lines are looked for in a text? -/
def isLineBoundary (c : Char) : Bool :=
  let n := c.toNat
  (10 ≤ n && n ≤ 13) || (28 ≤ n && n ≤ 30) || n == 0x85 || n == 0x2028 || n == 0x2029

/-- The pieces joined by a text between each two neighbours. -/
def joinWith (sep : List Char) : List (List Char) → List Char
  | [] => []
  | [piece] => piece
  | piece :: pieces => piece ++ sep ++ joinWith sep pieces

/-- A text always has at least one piece. -/
theorem splitAt_ne_nil (sep : Char) (s : List Char) : splitAt sep s ≠ [] := by
  cases s with
  | nil => simp [splitAt]
  | cons c rest =>
    simp only [splitAt]
    split
    · simp
    · split <;> simp

/-- **Joining the pieces by the character they were cut at gives the text back.** -/
theorem joinWith_splitAt (sep : Char) : ∀ s : List Char, joinWith [sep] (splitAt sep s) = s
  | [] => rfl
  | c :: rest => by
    have ih := joinWith_splitAt sep rest
    have hne := splitAt_ne_nil sep rest
    revert ih hne
    simp only [splitAt]
    cases splitAt sep rest with
    | nil => intro _ hne; exact absurd rfl hne
    | cons piece pieces =>
      intro ih _
      by_cases h : c == sep
      · have hc : c = sep := by simpa using h
        subst hc
        simp [joinWith, ih]
      · cases pieces with
        | nil => simpa [h, joinWith] using ih
        | cons p ps => simpa [h, joinWith] using ih

end DomainGen.Text
