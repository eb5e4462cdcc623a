/-!
# Binary numbers of 53 significant bits

The floating-point numbers of documents and settings, as exact values: a number is a sign, a
significand and a power of two, and every operation is exact arithmetic followed by one rounding.

* `Binary64.round` : the number nearest to a quotient, a tie going to the even significand; it
  decides overflow and gradual underflow, and every other operation goes through it;
* `Binary64.add`, `Binary64.mul`, `Binary64.ofInt` : arithmetic;
* `Binary64.same` : numeric equality (not-a-number differs from everything, the zeros are equal).

The significand of a rounded number is below 2^53, and at least 2^52 unless the exponent is the
smallest one, so each number has one form and structural equality separates only the two zeros and
the occurrences of not-a-number.
-/

namespace DomainGen

/-- A floating-point number. -/
inductive Binary64 where
  /-- Not a number. Those that arose apart have different tags; a tag of zero is shared by none. -/
  | nan (tag : Nat)
  /-- The infinity of a sign. -/
  | infinity (negative : Bool)
  /-- The value `significand · 2 ^ exponent`, negated if `negative`. -/
  | finite (negative : Bool) (significand : Nat) (exponent : Int)
  deriving DecidableEq, Repr, Inhabited

namespace Binary64

/-! ## 1. Rounding -/

/-- Exponent of the smallest numbers. -/
def minExponent : Int := -1074

/-- Exponent of the largest numbers. -/
def maxExponent : Int := 971

/-- The zero of a sign. -/
def zero (negative : Bool) : Binary64 :=
  .finite negative 0 minExponent

/-- A quotient rounded to the nearest natural number, a tie to the even one. -/
def roundQuotient (num den : Nat) : Nat :=
  let q := num / den
  let r := num % den
  if 2 * r < den then q
  else if den < 2 * r then q + 1
  else q + q % 2

/-- The quotient `num / (den · 2 ^ e)` as numerator and denominator. -/
def scale (num den : Nat) (e : Int) : Nat × Nat :=
  match e with
  | .ofNat k => (num, den * Nat.pow 2 k)
  | .negSucc k => (num * Nat.pow 2 (k + 1), den)

/-- The exponent at which the quotient has 53 bits before the point, or the smallest exponent. -/
def fittingExponent (num den : Nat) : Int :=
  let e : Int := (num.log2 : Int) - (den.log2 : Int) - 52
  let (n, d) := scale num den e
  max (if n / d < Nat.pow 2 52 then e - 1 else e) minExponent

/-- **The number nearest to `num / den`.** -/
def round (negative : Bool) (num den : Nat) : Binary64 :=
  if num = 0 then zero negative
  else
    let e := fittingExponent num den
    let (n, d) := scale num den e
    let m := roundQuotient n d
    let (m, e) := if m = Nat.pow 2 53 then (Nat.pow 2 52, e + 1) else (m, e)
    if maxExponent < e then .infinity negative else .finite negative m e

/-- The value of a finite number without its sign, as numerator and denominator. -/
def ratio (significand : Nat) (exponent : Int) : Nat × Nat :=
  match exponent with
  | .ofNat k => (significand * Nat.pow 2 k, 1)
  | .negSucc k => (significand, Nat.pow 2 (k + 1))

/-! ## 2. Arithmetic -/

/-- The number nearest to an integer. -/
def ofInt (i : Int) : Binary64 :=
  round (i < 0) i.natAbs 1

/-- The number with the other sign. -/
def neg : Binary64 → Binary64
  | .nan _ => .nan 0
  | .infinity s => .infinity (!s)
  | .finite s m e => .finite (!s) m e

/-- A signed numerator. -/
def signed (negative : Bool) (n : Nat) : Int :=
  if negative then -(n : Int) else n

/-- The sum, rounded once. A sum of zero is positive unless both terms are negative. -/
def add : Binary64 → Binary64 → Binary64
  | .nan _, _ => .nan 0
  | _, .nan _ => .nan 0
  | .infinity s, .infinity t => if s = t then .infinity s else .nan 0
  | .infinity s, _ => .infinity s
  | _, .infinity t => .infinity t
  | .finite s m e, .finite t n f =>
    let low := min e f
    let total :=
      signed s (m * Nat.pow 2 (e - low).toNat) + signed t (n * Nat.pow 2 (f - low).toNat)
    if total = 0 then zero (s && t)
    else
      let (num, den) := ratio total.natAbs low
      round (total < 0) num den

/-- Is the number a zero? -/
def isZero : Binary64 → Bool
  | .finite _ 0 _ => true
  | _ => false

/-- The product, rounded once. -/
def mul : Binary64 → Binary64 → Binary64
  | .nan _, _ => .nan 0
  | _, .nan _ => .nan 0
  | .infinity s, .infinity t => .infinity (s != t)
  | .infinity s, .finite t n f => if isZero (.finite t n f) then .nan 0 else .infinity (s != t)
  | .finite s m e, .infinity t => if isZero (.finite s m e) then .nan 0 else .infinity (s != t)
  | .finite s m e, .finite t n f =>
    let (num, den) := ratio (m * n) (e + f)
    round (s != t) num den

/-! ## 3. Comparison -/

/-- Numeric equality. -/
def same : Binary64 → Binary64 → Bool
  | .nan _, _ => false
  | _, .nan _ => false
  | x, y => x == y || (x.isZero && y.isZero)

/-- Are both the same occurrence of not-a-number? -/
def sameNan : Binary64 → Binary64 → Bool
  | .nan s, .nan t => s == t && s != 0
  | _, _ => false

/-- Equality with an integer, exactly. -/
def sameInt : Binary64 → Int → Bool
  | .finite s m e, i =>
    let (num, den) := ratio m e
    signed s num == i * (den : Int)
  | _, _ => false

/-- The order of two numbers; none when one of them is not a number. -/
def compare? : Binary64 → Binary64 → Option Ordering
  | .nan _, _ => none
  | _, .nan _ => none
  | .infinity s, .infinity t => some (compare t.toNat s.toNat)
  | .infinity s, .finite .. => some (if s then .lt else .gt)
  | .finite .., .infinity t => some (if t then .gt else .lt)
  | .finite s m e, .finite t n f =>
    let low := min e f
    some (compare (signed s (m * Nat.pow 2 (e - low).toNat))
      (signed t (n * Nat.pow 2 (f - low).toNat)))

/-- The order of a number and an integer, exactly; none when the former is not a number. -/
def compareInt? : Binary64 → Int → Option Ordering
  | .nan _, _ => none
  | .infinity s, _ => some (if s then .lt else .gt)
  | .finite s m e, i =>
    let (num, den) := ratio m e
    some (compare (signed s num) (i * (den : Int)))

/-- The number nearest to an integer, unless that is infinite. -/
def ofInt? (i : Int) : Option Binary64 :=
  match ofInt i with
  | .infinity _ => none
  | x => some x

end Binary64

end DomainGen
