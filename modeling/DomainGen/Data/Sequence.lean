import DomainGen.Data.Entries
import DomainGen.Fault

/-!
# Values as sequences

What a value yields when it is gone through item by item: lists, tuples and sets their items, a
mapping its keys, a text its characters, bytes their numbers. Other values cannot be gone through.

`Data.asEntries` reads a value as the entries of a mapping: a mapping is its own, any other sequence
must consist of pairs.
-/

namespace DomainGen.Data

/-- The items a value yields. -/
def items? : Data → Option (List Data)
  | .list xs => some xs
  | .tuple xs => some xs
  | .set xs => some xs
  | .mapping es => some (es.map (·.1))
  | .text s => some (s.toList.map fun c => .text (String.singleton c))
  | .bytes bs => some (bs.map fun b => .int b.toNat)
  | _ => none

/-- The items a value yields, or the fault of a value that yields none. -/
def items (x : Data) : Except Fault (List Data) :=
  match x.items? with
  | some xs => .ok xs
  | none => .error .wrongKind

/-- A value read as a key and its value. -/
def asEntry (x : Data) : Except Fault (Data × Data) := do
  match ← x.items with
  | [k, v] => if k.hashable then return (k, v) else throw .wrongKind
  | _ => throw .badValue

/-- A value read as the entries of a mapping; later entries overwrite earlier ones. -/
def asEntries : Data → Except Fault Entries
  | .mapping es => .ok es
  | x => do return Entries.ofList (← (← x.items).mapM asEntry)

end DomainGen.Data
