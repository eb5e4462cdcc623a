/-!
# Blank characters

The white space a line may consist of and still count as blank: the Unicode property `White_Space`
and the four information separators of ASCII.
-/

namespace DomainGen.Text

/-- Is the character white space? -/
def isBlank (c : Char) : Bool :=
  let n := c.toNat
  (9 ≤ n && n ≤ 13) || (28 ≤ n && n ≤ 32) || n == 0x85 || n == 0xa0 || n == 0x1680
    || (0x2000 ≤ n && n ≤ 0x200a) || n == 0x2028 || n == 0x2029 || n == 0x202f || n == 0x205f
    || n == 0x3000

/-- Is the text white space throughout (or empty)? -/
def isBlankLine (s : List Char) : Bool :=
  s.all isBlank

end DomainGen.Text
