import DomainGen.Data.Basic

/-!
# The order of the items of a set

A set has its items in places, and shows them in the order of these. The place of a number follows
from its value; a place that is taken sends it to another one. Items other than numbers have no
place that could be told beforehand: a set with such items keeps them in the order in which they
came.

* `Data.spot?` : the number that decides about the place of an item;
* `arrange` : the items of a set that takes them one after the other;
* `arrangeKeys` : those of a set that takes the keys of a mapping, all at once.
-/

namespace DomainGen

/-! ## 1. The spot of a number -/

/-- The prime number that spots are taken modulo. Twice over, it is the power of two from which on
    the bits of a decimal count anew. -/
def spotModulus : Nat := Nat.pow 2 61 - 1

/-- A spot with its sign. Minus one is no spot. -/
def signedSpot (negative : Bool) (n : Nat) : Int :=
  if negative then (if n == 1 then -2 else -(n : Int)) else n

/-- The spot of a decimal. Numbers that are equal have the same spot, decimals or not. -/
def Binary64.spot? : Binary64 → Option Int
  | .nan _ => none
  | .infinity negative => some (signedSpot negative 314159)
  | .finite negative m e =>
    some (signedSpot negative (m * Nat.pow 2 (e % 61).toNat % spotModulus))

/-- The spot of a value, if it is a number. -/
def Data.spot? : Data → Option Int
  | .float x => x.spot?
  | d => d.integer?.map fun i => signedSpot (i < 0) (i.natAbs % spotModulus)

/-! ## 2. Places -/

/-- The places of a set, each with an item or empty. Their number is a power of two. -/
abbrev Places := Array (Option (Int × Data))

/-- So many empty places. -/
def Places.empty (size : Nat) : Places := Array.replicate size none

/-- How many places after one are tried before the search goes on elsewhere. -/
def nearPlaces : Nat := 9

/-- The first empty place for an item, from one place on. `rest` is what is left of the spot. -/
def Places.find? (places : Places) : (fuel place rest : Nat) → Option Nat
  | 0, _, _ => none
  | fuel + 1, place, rest =>
    let width := if place + nearPlaces < places.size then nearPlaces + 1 else 1
    match (List.range width).find? fun k => (places.getD (place + k) none).isNone with
    | some k => some (place + k)
    | none =>
      let rest := rest / 32
      find? places fuel ((place * 5 + 1 + rest) % places.size) rest

/-- The places with one more item. One that finds no empty place gets a new one. -/
def Places.insert (places : Places) (item : Int × Data) : Places :=
  let spot := (item.1 % (Nat.pow 2 64 : Nat)).toNat
  match places.find? (places.size + 16) (spot % places.size) spot with
  | some i => places.setIfInBounds i (some item)
  | none => places.push (some item)

/-- The items in their places. -/
def Places.items (places : Places) : List (Int × Data) := places.toList.filterMap id

/-- Twice a number of places, so often that there are more than some. -/
def roomFor (wanted : Nat) : (fuel size : Nat) → Nat
  | 0, size => size
  | fuel + 1, size => if wanted < size then size else roomFor wanted fuel (2 * size)

/-- The fewest places there are. -/
def fewestPlaces : Nat := 8

/-- The same items in more places than some number. -/
def Places.grow (places : Places) (wanted : Nat) : Places :=
  places.items.foldl Places.insert (Places.empty (roomFor wanted (wanted + 1) fewestPlaces))

/-- Are so many items more than three fifths of the places? -/
def Places.isCrowded (places : Places) (count : Nat) : Bool :=
  3 * (places.size - 1) ≤ 5 * count

/-- The places with one more item, and four times as many as items once it gets crowded. -/
def Places.add (places : Places) (item : Int × Data) : Places :=
  let places := places.insert item
  let count := places.items.length
  if places.isCrowded count then places.grow (if 50000 < count then 2 * count else 4 * count)
  else places

/-! ## 3. Sets -/

/-- Some items in the order in which places show them that are filled one item after the other. -/
def arrangeIn (places : Places) (items : List Data) : List Data :=
  match items.mapM fun x => x.spot?.map fun spot => (spot, x) with
  | some spotted => (spotted.foldl Places.add places).items.map (·.2)
  | none => items

/-- The items of a set that takes them one after the other. No two of them are the same. -/
def arrange (items : List Data) : List Data := arrangeIn (Places.empty fewestPlaces) items

/-- The items of a set that takes them as the keys of a mapping: there is room for all of them from
    the beginning. -/
def arrangeKeys (items : List Data) : List Data :=
  let start := Places.empty fewestPlaces
  arrangeIn (if start.isCrowded items.length then start.grow (2 * items.length) else start) items

end DomainGen
