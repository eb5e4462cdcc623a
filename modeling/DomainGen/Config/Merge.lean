import DomainGen.Data.Entries

/-!
# Merging

Entries that override others. Where both have a mapping under one key the two are merged in the same
way; anywhere else the overriding value takes the place of the other.

What is merged are trees, and this is a limit of the model. A mapping that several places of a value
share, as a YAML file can say by an alias of it, would be changed at all of them when it is changed at
one. Here each place has a mapping of its own, so entries merged into one leave the others as they are.
-/

namespace DomainGen

mutual

/-- The value that stands for `new` where `old` stood. -/
def mergeValue (old : Option Data) : Data → Data
  | .mapping es => match old with
    | some (.mapping target) => .mapping (mergeEntries target es)
    | _ => .mapping es
  | other => other

/-- The entries with others merged in. -/
def mergeEntries (target : Entries) : List (Data × Data) → Entries
  | [] => target
  | (k, v) :: rest => mergeEntries (target.put k (mergeValue (target.lookup? k) v)) rest

end

end DomainGen
