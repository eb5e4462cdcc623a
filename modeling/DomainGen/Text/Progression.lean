/-!
# Arithmetic progressions of code points

Character properties are listed as progressions: a run of consecutive code points has step 1, and
the alternating upper- and lower-case letters of many scripts have step 2.
-/

namespace DomainGen.Text

/-- The code points `first`, `first + step`, … up to `last`. -/
structure Progression where
  /-- Smallest member. -/
  first : Nat
  /-- Largest member. -/
  last : Nat
  /-- Distance between neighbours. -/
  step : Nat

namespace Progression

/-- Is the code point a member? -/
def holds (p : Progression) (n : Nat) : Bool :=
  p.first ≤ n && n ≤ p.last && (n - p.first) % p.step == 0

/-- Is the code point a member of one of the progressions? -/
def any (ps : List Progression) (n : Nat) : Bool :=
  ps.any (·.holds n)

end Progression

end DomainGen.Text
