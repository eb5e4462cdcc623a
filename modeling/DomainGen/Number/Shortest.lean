import DomainGen.Number.Binary64

/-!
# The shortest decimal that reads back

A floating-point number is written with the fewest significant digits that still round to it, and
with the nearest of those. `shortest` searches the decimal grids of 1, 2, … 17 digits in exact
arithmetic and tests the two neighbours of the value on each; the first grid with a hit wins.

`Layout` holds the decisions of the written form: where positional notation ends and how the
exponent is spelled. `Binary64.text` is the form used in generated files and in JSON.
-/

namespace DomainGen

/-! ## 1. Digits -/

/-- The decimal digits of a natural number, most significant first. -/
def decimalDigits (n : Nat) : List Char :=
  Nat.toDigits 10 n

/-- The decimal `digits · 10 ^ exponent` as a quotient. -/
def decimalRatio (digits : Nat) (exponent : Int) : Nat × Nat :=
  match exponent with
  | .ofNat k => (digits * Nat.pow 10 k, 1)
  | .negSucc k => (digits, Nat.pow 10 (k + 1))

/-- The number nearest to the decimal `digits · 10 ^ exponent`. Exponents far outside the range of
    the numbers are decided without computing the power. -/
def Binary64.ofDecimal (negative : Bool) (digits : Nat) (exponent : Int) : Binary64 :=
  if digits = 0 then .zero negative
  else
    let magnitude := exponent + (decimalDigits digits).length
    if 400 < magnitude then .infinity negative
    else if magnitude < -400 then .zero negative
    else
      let (num, den) := decimalRatio digits exponent
      .round negative num den

/-- The power of ten of the first significant digit of `num / den`. -/
def leadingExponent (num den : Nat) : Int :=
  if den ≤ num then (decimalDigits (num / den)).length - 1
  else
    let guess := (decimalDigits (den / num)).length
    match [guess - 1, guess, guess + 1].find? fun j => den ≤ num * Nat.pow 10 j with
    | some j => -(j : Int)
    | none => -(guess : Int)

/-- A decimal: its digits as a number and the power of ten they are multiplied by. -/
structure Decimal where
  /-- The significant digits. -/
  digits : Nat
  /-- Power of ten of the last digit. -/
  exponent : Int
  deriving DecidableEq, Repr, Inhabited

/-- Of two neighbours on a decimal grid, those that round to the number; of two, the nearer, and of
    two equally near the one with an even last digit. -/
def chooseNeighbour (x : Binary64) (num den : Nat) (exponent : Int) : Option Decimal :=
  let (n, d) := match exponent with
    | .ofNat k => (num, den * Nat.pow 10 k)
    | .negSucc k => (num * Nat.pow 10 (k + 1), den)
  let below := n / d
  let above := below + 1
  let reads (c : Nat) : Bool := Binary64.ofDecimal false c exponent == x
  match reads below, reads above with
  | true, false => some ⟨below, exponent⟩
  | false, true => some ⟨above, exponent⟩
  | false, false => none
  | true, true =>
    let r := n % d
    if 2 * r < d || (2 * r == d && below % 2 == 0) then some ⟨below, exponent⟩
    else some ⟨above, exponent⟩

/-- The shortest decimal that reads back as the positive finite number, the nearest of its length.
    Seventeen digits always suffice. -/
def shortest (significand : Nat) (exponent : Int) : Decimal :=
  let x := Binary64.finite false significand exponent
  let (num, den) := Binary64.ratio significand exponent
  let lead := leadingExponent num den
  ((List.range 17).findSome? fun (n : Nat) =>
    chooseNeighbour x num den (lead - (n : Int))).getD ⟨0, 0⟩

/-! ## 2. The written form -/

/-- How a decimal is laid out. -/
structure Layout where
  /-- Positional notation is used while the point stands after more digits than this … -/
  lowestPoint : Int
  /-- … and after at most so many. -/
  highestPoint : Int
  /-- Least number of digits of an exponent. -/
  exponentWidth : Nat
  /-- Text of not-a-number. -/
  nanText : String
  /-- Text of infinity. -/
  infinityText : String

/-- The layout of numbers printed in generated files: positional from 0.0001 up to below 10^16. -/
def Layout.plain : Layout := ⟨-4, 16, 2, "nan", "inf"⟩

/-- The layout of numbers in JSON, which has words of its own for the three special values. -/
def Layout.json : Layout := ⟨-4, 16, 2, "NaN", "Infinity"⟩

/-- A decimal without trailing zeros, as its digits and the position of the point after the first
    digit's left edge. -/
def Decimal.normalized (d : Decimal) : List Char × Int :=
  let cs := decimalDigits d.digits
  let kept := (cs.reverse.dropWhile (· == '0')).reverse
  (kept, d.exponent + cs.length)

/-- Digits with a point before the digit at `point`, filled up with zeros on either side. -/
def positional (digits : List Char) (point : Int) : List Char :=
  if point ≤ 0 then '0' :: '.' :: List.replicate (-point).toNat '0' ++ digits
  else
    let n := point.toNat
    if digits.length ≤ n then digits ++ List.replicate (n - digits.length) '0' ++ ['.', '0']
    else digits.take n ++ '.' :: digits.drop n

/-- Digits with a point after the first one and an exponent. -/
def scientific (layout : Layout) (digits : List Char) (point : Int) : List Char :=
  let e := point - 1
  let eDigits := decimalDigits e.natAbs
  let fraction := if digits.length ≤ 1 then [] else '.' :: digits.drop 1
  digits.take 1 ++ fraction ++ ['e', if e < 0 then '-' else '+']
    ++ List.replicate (layout.exponentWidth - eDigits.length) '0' ++ eDigits

/-- A number in a layout. -/
def Binary64.textIn (layout : Layout) : Binary64 → String
  | .nan _ => layout.nanText
  | .infinity s => (if s then "-" else "") ++ layout.infinityText
  | .finite s m e =>
    let body :=
      if m = 0 then ['0', '.', '0']
      else
        let (digits, point) := (shortest m e).normalized
        if layout.lowestPoint < point && point ≤ layout.highestPoint then positional digits point
        else scientific layout digits point
    String.ofList (if s then '-' :: body else body)

/-- A number as generated files show it. -/
def Binary64.text (x : Binary64) : String :=
  x.textIn .plain

/-- The text of an integer. -/
def integerText (i : Int) : String :=
  String.ofList (if i < 0 then '-' :: decimalDigits i.natAbs else decimalDigits i.natAbs)

end DomainGen
