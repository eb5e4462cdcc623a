import DomainGen.Yaml.Node
import DomainGen.Yaml.Token.Lexer
import DomainGen.Yaml.Scalar
import DomainGen.Data.Arrangement
import DomainGen.Data.Entries

/-!
# Values of YAML nodes

The plain value a node denotes. A node can fail to denote one in several places, and the first of
them counts, where scalars are read at once and collections are opened later, in the order in which
they were met. So there are two passes:

* `Node.defect?` : the first place where a node fails to denote a value, if there is one;
* `Node.value` : the value, where there is no such place.

A key `<<` stands for the entries of its value, which come before the entries of the mapping itself
and so give way to them. A scalar `=` denotes a value only as a key, and from where it has been found
as a key on also where an alias stands for it.
-/

namespace DomainGen.Yaml

namespace Node

/-! ## 1. Scalars and merged entries -/

mutual

/-- The text of a node read as a scalar. A mapping is read through its key `=`. -/
def scalarText? : Node → Option String
  | .scalar _ s => some s
  | .sequence _ _ => none
  | .mapping _ entries => scalarTextOf? entries

/-- The text of the value of the first key `=`. -/
def scalarTextOf? : List (Node × Node) → Option String
  | [] => none
  | (k, v) :: rest => if k.tag.isValue then scalarText? v else scalarTextOf? rest

end

/-- The key `=` of a mapping is a text like any other. -/
def asKey : Node → Node
  | .scalar (.value _) s => .scalar .text s
  | .sequence (.value _) items => .sequence .text items
  | .mapping (.value _) entries => .mapping .text entries
  | n => n

/-- The entries of a mapping that are no keys `<<`. -/
def ownEntries (entries : List (Node × Node)) : List (Node × Node) :=
  entries.filter fun e => e.1.tag != .merge

mutual

/-- The entries that the keys `<<` of a mapping stand for. -/
def mergedEntries : List (Node × Node) → Except ReadError (List (Node × Node))
  | [] => .ok []
  | (k, v) :: rest => do
    let first ← if k.tag == .merge then contribution v else .ok []
    return first ++ (← mergedEntries rest)

/-- The entries a value of `<<` contributes: those of a mapping, or of several, the last one
    first. -/
def contribution : Node → Except ReadError (List (Node × Node))
  | .mapping _ entries => do return (← mergedEntries entries) ++ ownEntries entries
  | .sequence _ items => contributions items
  | .scalar _ _ => .error .malformed

/-- The entries of several mappings, the last one first. -/
def contributions : List Node → Except ReadError (List (Node × Node))
  | [] => .ok []
  | .mapping _ entries :: rest => do
    let first := (← mergedEntries entries) ++ ownEntries entries
    return (← contributions rest) ++ first
  | _ :: _ => .error .malformed

end

/-- The entries of a mapping, those its keys `<<` stand for in front of its own. -/
def flatEntries : Node → Except ReadError (List (Node × Node))
  | .mapping _ entries => do return (← mergedEntries entries) ++ ownEntries entries
  | _ => .error .malformed

/-! ## 2. The first defect -/

/-- The value of a node whose kind is one of scalars. A date or a moment is read from a scalar
    only. -/
def readAsScalar (n : Node) : Except ReadError Data :=
  match n.tag, n with
  | .moment, .mapping _ _ =>
    match n.scalarText? with
    | some _ => .error (.fault .wrongKind)
    | none => .error .malformed
  | tag, n =>
    match n.scalarText? with
    | some s => readScalar tag s
    | none => .error .malformed

/-- A node as it counts after some keys `=` have been found, by their anchors: it is a text wherever
    else it stands. -/
def settle (found : List String) (n : Node) : Node :=
  match n.tag with
  | .value a => if a != "" && found.contains a then asKey n else n
  | _ => n

/-- A node is met: a collection is to be opened later, anything else is read. -/
def meet (found : List String) (n : Node) : Except ReadError (List Node) :=
  if n.tag.isCollection then .ok [n]
  else match (n.settle found).readAsScalar with
    | .ok _ => .ok []
    | .error e => .error e

/-- Several nodes are met. -/
def meetAll (found : List String) : List Node → Except ReadError (List Node)
  | [] => .ok []
  | n :: rest => do
    let first ← n.meet found
    return first ++ (← meetAll found rest)

/-- The entries of a mapping are met. Collections cannot be keys. -/
def meetEntries (found : List String) : List (Node × Node) → Except ReadError (List Node)
  | [] => .ok []
  | (k, v) :: rest => do
    if k.tag.isCollection then .error .malformed
    let _ ← (asKey k).meet found
    let first ← v.meet found
    return first ++ (← meetEntries found rest)

/-- The items of a list of pairs are met, each a mapping of one entry. -/
def meetPairs (found : List String) : List Node → Except ReadError (List Node)
  | [] => .ok []
  | .mapping _ [(k, v)] :: rest => do
    let key ← k.meet found
    let first ← v.meet found
    return key ++ first ++ (← meetPairs found rest)
  | _ :: _ => .error .malformed

/-- What opening collections has come to. -/
structure Opened where
  /-- The anchors of the keys `=` found. -/
  found : List String
  /-- The collections met. -/
  met : List Node

/-- The entries of a mapping are looked through for keys `=`, then met. -/
def openEntries (found : List String) (entries : List (Node × Node)) :
    Except ReadError Opened := do
  let found := entries.filterMap (fun e => e.1.tag.anchor?) ++ found
  return ⟨found, ← meetEntries found entries⟩

/-- A collection is opened: the collections met in it. -/
def openCollection (found : List String) (n : Node) : Except ReadError Opened :=
  match n.tag, n with
  | .sequence, .sequence _ items => do return ⟨found, ← meetAll found items⟩
  | .pairs, .sequence _ items => do return ⟨found, ← meetPairs found items⟩
  | .mapping, n => do openEntries found (← n.flatEntries)
  | .set, n => do openEntries found (← n.flatEntries)
  | _, _ => .error .malformed

/-- Several collections are opened, one after the other. -/
def openAll (found : List String) : List Node → Except ReadError Opened
  | [] => .ok ⟨found, []⟩
  | n :: rest => do
    let first ← n.openCollection found
    let more ← openAll first.found rest
    return { more with met := first.met ++ more.met }

/-- The first defect in some collections and what they contain. `depth` bounds how deep they are
    nested. -/
def firstDefect (found : List String) : (depth : Nat) → List Node → Option ReadError
  | 0, _ => none
  | depth + 1, level =>
    match openAll found level with
    | .error e => some e
    | .ok next => firstDefect next.found depth next.met

/-- The first place where the node fails to denote a value. -/
def defect? (n : Node) : Option ReadError :=
  match n.meet [] with
  | .error e => some e
  | .ok first => firstDefect [] n.depth first

/-! ## 3. The value -/

/-- The value of a node of a kind of scalars that has no defect. -/
def scalarValue (n : Node) : Data :=
  match n.asKey.readAsScalar with
  | .ok x => x
  | .error _ => .null

mutual

/-- The value of a node without defects. -/
def value : Node → Data
  | .scalar tag s => scalarValue (.scalar tag s)
  | .sequence tag items =>
    match tag with
    | .sequence => .list (values items)
    | .pairs => .list (pairValues items)
    | _ => .null
  | .mapping tag entries =>
    match tag with
    | .mapping => .mapping (Entries.ofList (mergedValues entries ++ ownValues entries))
    | .set =>
      .set (arrangeKeys ((Entries.ofList (mergedValues entries ++ ownValues entries)).map (·.1)))
    | _ => scalarValue (.mapping tag entries)

/-- The values of some nodes. -/
def values : List Node → List Data
  | [] => []
  | n :: rest => value n :: values rest

/-- The values of a list of pairs. -/
def pairValues : List Node → List Data
  | [] => []
  | .mapping _ [(k, v)] :: rest => .tuple [value k, value v] :: pairValues rest
  | _ :: rest => pairValues rest

/-- The entries of a mapping that are no keys `<<`. -/
def ownValues : List (Node × Node) → DomainGen.Entries
  | [] => []
  | (k, v) :: rest =>
    if k.tag == .merge then ownValues rest
    else
      (value k, value v) :: ownValues rest

/-- The entries the keys `<<` of a mapping stand for. -/
def mergedValues : List (Node × Node) → DomainGen.Entries
  | [] => []
  | (k, v) :: rest =>
    (if k.tag == .merge then contributedValues v else []) ++ mergedValues rest

/-- The entries a value of `<<` contributes. -/
def contributedValues : Node → DomainGen.Entries
  | .mapping _ entries => mergedValues entries ++ ownValues entries
  | .sequence _ items => contributedByItems items
  | .scalar _ _ => []

/-- The entries several mappings contribute, the last one first. -/
def contributedByItems : List Node → DomainGen.Entries
  | [] => []
  | .mapping _ entries :: rest =>
    contributedByItems rest ++ (mergedValues entries ++ ownValues entries)
  | _ :: rest => contributedByItems rest

end

end Node

/-! ## 4. Texts -/

/-- The value of the document in a text. A text without a document denotes null. -/
def read (text : String) : Except ReadError Data := do
  match ← Node.ofTokens? (tokens text.toList) with
  | none => return .null
  | some n => match n.defect? with
    | some e => throw e
    | none => return n.value

end DomainGen.Yaml
