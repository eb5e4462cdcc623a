/-!
# The form with seven bits a byte

A text in bytes below 128. Characters of ASCII, the plus sign apart, stand for themselves; the units
of two bytes of others stand as digits of base 64 between a plus sign and a hyphen, or whatever else
is no such digit.

* `Utf7.encode` : the bytes of a text;
* `Utf7.decode` : the text of bytes.
-/

namespace DomainGen.Utf7

/-! ## 1. Digits -/

/-- The digits of base 64. -/
def digits : List Char :=
  "ABCDEFGHIJKLMNOPQRSTUVWXYZabcdefghijklmnopqrstuvwxyz0123456789+/".toList

/-- The value of a digit. -/
def digitOf? (n : Nat) : Option Nat := digits.findIdx? fun d => d.toNat == n

/-- The digit of a value. -/
def digit (v : Nat) : Char := digits[v]?.getD 'A'

/-- The bits of a unit of two bytes or of a digit, the highest first. -/
def bitsOf : (width : Nat) → Nat → List Bool
  | 0, _ => []
  | width + 1, n => n.testBit width :: bitsOf width n

/-- The number that bits make up. -/
def ofBits (bits : List Bool) : Nat := bits.foldl (fun n b => 2 * n + b.toNat) 0

/-- Bits in groups of a width; the last group may be short. -/
def groups (width : Nat) : (count : Nat) → List Bool → List (List Bool)
  | 0, _ => []
  | count + 1, bits =>
    if bits.isEmpty then [] else bits.take width :: groups width count (bits.drop width)

/-! ## 2. Writing -/

/-- The units of a character. -/
def unitsOf (c : Char) : List Nat :=
  let n := c.toNat
  if n < 0x10000 then [n]
  else [0xd800 + (n - 0x10000) / 1024, 0xdc00 + (n - 0x10000) % 1024]

/-- Does the character stand for itself? -/
def isDirect (c : Char) : Bool :=
  c == '\t' || c == '\n' || c == '\r'
    || (32 ≤ c.toNat && c.toNat < 127 && c != '+' && c != '\\' && c != '~')

/-- The digits of characters; the last one is filled up with zeros. -/
def shifted (s : List Char) : List Char :=
  let bits := (s.flatMap unitsOf).flatMap (bitsOf 16)
  (groups 6 bits.length bits).map fun g => digit (ofBits (g ++ List.replicate (6 - g.length) false))

/-- The characters that stand for a text. Digits end at a hyphen unless something else ends them. -/
def encodeRuns : List (List Char) → List Char
  | [] => []
  | run :: rest =>
    if run.all isDirect then run ++ encodeRuns rest
    else if run == ['+'] then '+' :: '-' :: encodeRuns rest
    else
      let closing := match rest with
        | (c :: _) :: _ => if (digitOf? c.toNat).isSome || c == '-' then ['-'] else []
        | _ => ['-']
      '+' :: shifted run ++ closing ++ encodeRuns rest

/-- A text in runs: of characters that stand for themselves, of others. Plus signs that no others
    precede stand alone. -/
def runs : (inShift : Bool) → List Char → List (List Char)
  | _, [] => []
  | inShift, c :: rest =>
    if isDirect c then match runs false rest with
      | (d :: ds) :: more => if isDirect d then (c :: d :: ds) :: more else [c] :: (d :: ds) :: more
      | more => [c] :: more
    else if c == '+' && !inShift then ['+'] :: runs false rest
    else match runs true rest with
      | (d :: ds) :: more => if isDirect d then [c] :: (d :: ds) :: more else (c :: d :: ds) :: more
      | more => [c] :: more

/-- The bytes of a text. -/
def encode (s : List Char) : List UInt8 :=
  (encodeRuns (runs false s)).map fun c => UInt8.ofNat c.toNat

/-! ## 3. Reading -/

/-- What is known while digits are read. -/
structure Shift where
  /-- The bits of the digits that no unit has taken yet. -/
  bits : List Bool
  /-- The first half of a character of two units. -/
  high : Option Nat
  deriving Inhabited

/-- The characters that one more unit completes. -/
def Shift.unit (s : Shift) (u : Nat) : Shift × List Char :=
  match s.high with
  | some h =>
    if 0xdc00 ≤ u && u < 0xe000 then
      ({ s with high := none }, [Char.ofNat (0x10000 + (h - 0xd800) * 1024 + (u - 0xdc00))])
    else if 0xd800 ≤ u && u < 0xdc00 then ({ s with high := some u }, [])
    else ({ s with high := none }, [Char.ofNat u])
  | none =>
    if 0xd800 ≤ u && u < 0xdc00 then ({ s with high := some u }, []) else (s, [Char.ofNat u])

/-- The characters that one more digit completes. -/
def Shift.take (s : Shift) (value : Nat) : Shift × List Char :=
  let bits := s.bits ++ bitsOf 6 value
  if bits.length < 16 then ({ s with bits }, [])
  else Shift.unit { s with bits := bits.drop 16 } (ofBits (bits.take 16))

/-- May digits end here? What is left over must be less than a digit, and zeros. -/
def Shift.mayEnd (s : Shift) : Bool := s.bits.length < 6 && s.bits.all (!·)

/-- What the next byte belongs to. -/
inductive Mode where
  /-- Characters that stand for themselves. -/
  | direct
  /-- A plus sign. -/
  | opened
  /-- Digits. -/
  | digits (s : Shift)
  deriving Inhabited

/-- The characters of a byte outside digits. -/
def directStep (b : Nat) : Option (Mode × List Char) :=
  if b == 0x2b then some (.opened, [])
  else if b < 128 then some (.direct, [Char.ofNat b])
  else none

/-- The characters that one more byte completes, and what comes next. -/
def step (m : Mode) (b : Nat) : Option (Mode × List Char) :=
  match m, digitOf? b with
  | .direct, _ => directStep b
  | .opened, some v => let (s, cs) := Shift.take ⟨[], none⟩ v; some (.digits s, cs)
  | .opened, none => if b == 0x2d then some (.direct, ['+']) else none
  | .digits s, some v => let (s, cs) := s.take v; some (.digits s, cs)
  | .digits s, none =>
    if !s.mayEnd then none
    else if b == 0x2d then some (.direct, [])
    else directStep b

/-- May the text end here? -/
def Mode.mayEnd : Mode → Bool
  | .direct => true
  | .opened => true
  | .digits s => s.mayEnd && s.high.isNone

/-- The text of bytes, from a mode on. -/
def decodeFrom (m : Mode) : List UInt8 → Option (List Char)
  | [] => if m.mayEnd then some [] else none
  | b :: rest => do
    let (m, cs) ← step m b.toNat
    (decodeFrom m rest).map (cs ++ ·)

/-- The text of bytes. -/
def decode (bytes : List UInt8) : Option (List Char) := decodeFrom .direct bytes

end DomainGen.Utf7
