import DomainGen.Yaml.Tag
import DomainGen.Yaml.Token.Scalar
import DomainGen.Data.Basic
import DomainGen.Text.Case

/-!
# What scalars denote

The value of a scalar whose kind is known. A kind can be given by a tag to a scalar of any form, so
every reading can fail.

* `readScalar` : the value of a scalar of a kind;
* `decodeSixBits` : bytes written with 64 characters, four for three bytes.
-/

namespace DomainGen.Yaml

open Text

/-! ## 1. Numbers and truth values -/

/-- A truth value, in letters of any case. -/
def readBool (s : List Char) : Except ReadError Data :=
  let word := String.ofList (lower s)
  if word == "yes" || word == "true" || word == "on" then .ok (.bool true)
  else if word == "no" || word == "false" || word == "off" then .ok (.bool false)
  else .error (.fault .missingKey)

/-- An optional reading whose failure is a bad value. -/
def orBadValue {α : Type} : Option α → Except ReadError α
  | some x => .ok x
  | none => .error (.fault .badValue)

/-- Numbers in base sixty, the first one counting most. -/
def joinSixtieths (parts : List Int) : Int :=
  parts.foldl (fun n d => n * 60 + d) 0

/-- An integer. -/
def readInt (s : List Char) : Except ReadError Data := do
  let s := s.filter (· != '_')
  let (negative, body) := splitSign s
  let magnitude ← match body with
    | [] => .error (.fault .missingItem)
    | ['0'] => .ok 0
    | '0' :: 'b' :: rest => orBadValue (readInteger? 2 rest)
    | '0' :: 'x' :: rest => orBadValue (readInteger? 16 rest)
    | '0' :: _ => orBadValue (readInteger? 8 body)
    | _ =>
      if body.contains ':' then
        orBadValue (((splitAt ':' body).mapM (readInteger? 10)).map joinSixtieths)
      else orBadValue (readInteger? 10 body)
  return .int (if negative then -magnitude else magnitude)

/-- The sum of decimals in base sixty, the last one counting least. The sum goes from the last one
    to the first, and each weight must be a decimal itself. -/
def sumSixtieths : (weight : Nat) → Binary64 → List Binary64 → Except ReadError Binary64
  | _, sum, [] => .ok sum
  | weight, sum, d :: rest =>
    match Binary64.ofInt weight with
    | .infinity _ => .error (.fault .overflow)
    | w => sumSixtieths (weight * 60) (sum.add (d.mul w)) rest

/-- Not-a-number under its name in documents, which is one and the same wherever it stands. -/
def documentNan : Binary64 := .nan 1

/-- A decimal. -/
def readFloat (s : List Char) : Except ReadError Data := do
  let s := lower (s.filter (· != '_'))
  let (negative, body) := splitSign s
  if s.isEmpty then .error (.fault .missingItem)
  if String.ofList body == ".nan" then return .float documentNan
  let magnitude ← match String.ofList body with
    | ".inf" => .ok (.infinity false)
    | _ =>
      if body.contains ':' then do
        let parts ← orBadValue ((splitAt ':' body).mapM readDecimal?)
        sumSixtieths 1 (.zero false) parts.reverse
      else orBadValue (readDecimal? body)
  return .float (if negative then magnitude.neg else magnitude)

/-! ## 2. Bytes -/

/-- The 64 characters, by value. -/
def sixBitChars : List Char :=
  "ABCDEFGHIJKLMNOPQRSTUVWXYZabcdefghijklmnopqrstuvwxyz0123456789+/".toList

/-- The value of a character. -/
def sixBits? (c : Char) : Option Nat :=
  sixBitChars.findIdx? (· == c)

/-- Bytes from the place in a group of four characters, the number of equals signs since the last
    other character and the bits that are left over. Characters that stand for nothing are skipped;
    a group that equals signs fill up is the last one; a group must not stay open. -/
def decodeSixBits (place pads leftover : Nat) : List Char → Option (List UInt8)
  | [] => if place == 0 then some [] else none
  | c :: rest =>
    if c == '=' then
      if place < 2 then decodeSixBits place pads leftover rest
      else if 4 ≤ place + pads + 1 then some []
      else decodeSixBits place (pads + 1) leftover rest
    else match sixBits? c with
      | none => decodeSixBits place pads leftover rest
      | some v =>
        match place with
        | 0 => decodeSixBits 1 0 v rest
        | 1 => (decodeSixBits 2 0 (v % 16) rest).map (UInt8.ofNat (leftover * 4 + v / 16) :: ·)
        | 2 => (decodeSixBits 3 0 (v % 4) rest).map (UInt8.ofNat (leftover * 16 + v / 4) :: ·)
        | _ => (decodeSixBits 0 0 0 rest).map (UInt8.ofNat (leftover * 64 + v) :: ·)

/-- Bytes. -/
def readBinary (s : List Char) : Except ReadError Data :=
  if s.all fun c => c.toNat < 128 then
    match decodeSixBits 0 0 0 s with
    | some bytes => .ok (.bytes bytes)
    | none => .error .malformed
  else .error .malformed

/-! ## 3. Dates and moments -/

/-- The first six digits of a fraction, filled up with zeros, as millionths. -/
def millionths (fraction : List Char) : Nat :=
  let ds := fraction.take 6
  digitsValue ((ds ++ List.replicate (6 - ds.length) '0').filterMap digitValue?)

/-- The number some digits denote. -/
def numberOf (ds : List Char) : Nat := digitsValue (ds.filterMap digitValue?)

/-- A date or a moment. The parts must denote a day, a time, and less than a day of distance from
    universal time. -/
def readMoment (s : List Char) : Except ReadError Data :=
  match Stamp.read? (dropFinalBreak s) with
  | none => .error (.fault .missingMember)
  | some stamp =>
    let date : Date := ⟨numberOf stamp.year, numberOf stamp.month, numberOf stamp.day⟩
    match stamp.time with
    | none => if date.valid then .ok (.date date) else .error (.fault .badValue)
    | some t =>
      let offset := t.zone.map fun (negative, hours, minutes) =>
        let n : Int := (numberOf hours * 60 + numberOf minutes : Nat)
        if negative then -n else n
      let m : Moment := ⟨date, numberOf t.hour, numberOf t.minute, numberOf t.second,
        millionths t.fraction, offset⟩
      if m.valid then .ok (.moment m) else .error (.fault .badValue)

/-! ## 4. All kinds -/

/-- The value of a scalar of a kind. Collections are no scalars, and keys of the two special kinds
    have no value. -/
def readScalar (tag : Tag) (text : String) : Except ReadError Data :=
  match tag with
  | .null => .ok .null
  | .bool => readBool text.toList
  | .int => readInt text.toList
  | .float => readFloat text.toList
  | .binary => readBinary text.toList
  | .moment => readMoment text.toList
  | .text => .ok (.text text)
  | _ => .error .malformed

end DomainGen.Yaml
