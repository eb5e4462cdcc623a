import DomainGen.Yaml.Token
import DomainGen.Yaml.Tag

/-!
# The nodes of a YAML document

A document is one node: a scalar, a sequence of nodes, or a mapping of pairs of nodes, each with its
kind. An alias stands for the node of its anchor.

Nodes are trees, and this is a limit of the model. An alias gives a copy of its node, so the two are not
the same node afterwards. A collection that contains an alias of itself is no tree: it is refused here
(`named`), although a loader that builds graphs has a value for it.

* `Node` : a node; `Node.depth` : how deep it is nested;
* `Node.ofTokens?` : the node of the one document that some tokens make up, if there is one.

Reading goes by the first token that is left. `fuel` bounds how many nodes and entries are read,
which is less than the number of tokens and of empty places between them.
-/

namespace DomainGen.Yaml

/-! ## 1. Nodes -/

/-- A node. -/
inductive Node where
  | scalar (tag : Tag) (text : String)
  | sequence (tag : Tag) (items : List Node)
  | mapping (tag : Tag) (entries : List (Node × Node))
  deriving Repr, Inhabited

namespace Node

/-- The kind of a node. -/
def tag : Node → Tag
  | scalar t _ => t
  | sequence t _ => t
  | mapping t _ => t

mutual

/-- How deep a node is nested. -/
def depth : Node → Nat
  | .scalar _ _ => 1
  | .sequence _ items => 1 + depthOfItems items
  | .mapping _ entries => 1 + depthOfEntries entries

/-- The depth of the deepest of some nodes. -/
def depthOfItems : List Node → Nat
  | [] => 0
  | n :: ns => max (depth n) (depthOfItems ns)

/-- The depth of the deepest node of some entries. -/
def depthOfEntries : List (Node × Node) → Nat
  | [] => 0
  | (k, v) :: es => max (max (depth k) (depth v)) (depthOfEntries es)

end

/-- The node with an anchor. -/
def anchored (anchor : String) : Node → Node
  | scalar t s => scalar (t.anchored anchor) s
  | sequence t items => sequence (t.anchored anchor) items
  | mapping t entries => mapping (t.anchored anchor) entries

/-- What an empty place stands for. -/
def empty : Node := .scalar .null ""

end Node

/-! ## 2. State -/

/-- The state of reading nodes. -/
structure Composer where
  /-- The tokens that are left. -/
  tokens : List Token
  /-- What the handles of tags stand for. -/
  handles : List (String × String)
  /-- The anchors with their nodes; a node that is not complete is not known yet. -/
  anchors : List (String × Option Node)
  deriving Inhabited

/-- A reading of something. -/
abbrev Reading (α : Type) := StateT Composer (Except ReadError) α

namespace Composer

/-- Why the tokens that are left cannot go on. -/
def problem (c : Composer) : ReadError :=
  match c.tokens with
  | .broken e :: _ => e
  | _ => .malformed

/-- No node can be read here. -/
def stuck {α : Type} : Reading α := do
  throw (← get).problem

/-- The next token. -/
def next? : Reading (Option Token) := do
  return (← get).tokens.head?

/-- Reads one token. -/
def drop : Reading Unit :=
  modify fun c => { c with tokens := c.tokens.drop 1 }

/-- Reads one token if it is the given one. -/
def dropIf (t : Token) : Reading Bool := do
  if (← next?) == some t then
    drop
    return true
  else return false

/-- Is the next token one of some? -/
def nextIsAmong (ts : List Token) : Reading Bool := do
  match ← next? with
  | some t => return ts.contains t
  | none => return false

/-- Takes an anchor. An anchor is taken once in a document. -/
def reserve : Option String → Reading Unit
  | none => return ()
  | some a => do
    if ((← get).anchors.lookup a).isSome then stuck
    else modify fun c => { c with anchors := (a, none) :: c.anchors }

/-- The node of an anchor is complete. -/
def name (anchor : Option String) (n : Node) : Reading Node := do
  match anchor with
  | none => return n
  | some a =>
    let n := n.anchored a
    modify fun c => { c with anchors := (a, some n) :: c.anchors }
    return n

/-- The node of an anchor. It must be complete: a collection that contains itself is not read. -/
def named (anchor : String) : Reading Node := do
  match (← get).anchors.lookup anchor with
  | some (some n) => return n
  | _ => throw .malformed

/-- What stands before a node: its tag and its anchor, in either order. -/
def properties : Reading (Option (Option String × String) × Option String) := do
  match ← next? with
  | some (.anchor a) =>
    drop
    match ← next? with
    | some (.tag h s) =>
      drop
      return (some (h, s), some a)
    | _ => return (none, some a)
  | some (.tag h s) =>
    drop
    match ← next? with
    | some (.anchor a) =>
      drop
      return (some (h, s), some a)
    | _ => return (some (h, s), none)
  | _ => return (none, none)

/-- The full name of a tag. -/
def fullTag : Option (Option String × String) → Reading (Option String)
  | none => return none
  | some (none, s) => return some s
  | some (some h, s) => do
    match (← get).handles.lookup h with
    | some beginning => return some (beginning ++ s)
    | none => stuck

/-- The kind of a node that shows its kind by its tag or else by its form. An exclamation mark alone
    leaves it to the form. -/
def kindOr (form : Tag) (tag : Option String) : Tag :=
  match tag with
  | none => form
  | some "!" => form
  | some name => Tag.ofName name

/-- The kind of a scalar. Without a tag, one that is not plain is a text. -/
def scalarKind (text : String) (plain : Bool) (tag : Option String) : Tag :=
  kindOr (if plain || tag.isSome then Tag.ofPlain text else .text) tag

/-- Where a node stands: which collections can begin there. -/
inductive Position where
  /-- Between brackets. -/
  | inFlow
  /-- In a block. -/
  | inBlock
  /-- In a block mapping, where a sequence need not be indented. -/
  | inMapping
  deriving DecidableEq, Repr

/-! ## 3. Nodes from tokens -/

mutual

/-- One node. -/
def node (at' : Position) : (fuel : Nat) → Reading Node
  | 0 => throw .malformed
  | fuel + 1 => do
    match ← next? with
    | some (.alias a) =>
      drop
      named a
    | _ =>
      let (tag, anchor) ← properties
      let tag ← fullTag tag
      reserve anchor
      let t ← next?
      if t == some .blockEntry && at' == .inMapping then
        name anchor (.sequence (kindOr .sequence tag) (← indentlessItems fuel))
      else match t with
        | some (.scalar s plain) =>
          drop
          name anchor (.scalar (scalarKind s plain tag) s)
        | some .flowSequenceStart =>
          drop
          name anchor (.sequence (kindOr .sequence tag) (← flowItems true fuel))
        | some .flowMappingStart =>
          drop
          name anchor (.mapping (kindOr .mapping tag) (← flowEntries true fuel))
        | some .blockSequenceStart =>
          if at' == .inFlow then stuck
          else
            drop
            name anchor (.sequence (kindOr .sequence tag) (← blockItems fuel))
        | some .blockMappingStart =>
          if at' == .inFlow then stuck
          else
            drop
            name anchor (.mapping (kindOr .mapping tag) (← blockEntries fuel))
        | _ =>
          if anchor.isSome || tag.isSome then name anchor (.scalar (kindOr .null tag) "")
          else stuck

/-- A node, unless one of some tokens shows that its place is empty. -/
def nodeOrEmpty (at' : Position) (ends : List Token) : (fuel : Nat) → Reading Node
  | 0 => throw .malformed
  | fuel + 1 => do
    if ← nextIsAmong ends then return .empty
    else node at' fuel

/-- The items of a block sequence. -/
def blockItems : (fuel : Nat) → Reading (List Node)
  | 0 => throw .malformed
  | fuel + 1 => do
    if ← dropIf .blockEntry then
      let n ← nodeOrEmpty .inBlock [.blockEntry, .blockEnd] fuel
      return n :: (← blockItems fuel)
    else if ← dropIf .blockEnd then return []
    else stuck

/-- The items of a sequence that is not indented further than the mapping it stands in. -/
def indentlessItems : (fuel : Nat) → Reading (List Node)
  | 0 => throw .malformed
  | fuel + 1 => do
    if ← dropIf .blockEntry then
      let n ← nodeOrEmpty .inBlock [.blockEntry, .key, .value, .blockEnd] fuel
      return n :: (← indentlessItems fuel)
    else return []

/-- The entries of a block mapping. -/
def blockEntries : (fuel : Nat) → Reading (List (Node × Node))
  | 0 => throw .malformed
  | fuel + 1 => do
    if ← dropIf .key then
      let k ← nodeOrEmpty .inMapping [.key, .value, .blockEnd] fuel
      let v ← if ← dropIf .value then
          nodeOrEmpty .inMapping [.key, .value, .blockEnd] fuel
        else pure .empty
      return (k, v) :: (← blockEntries fuel)
    else if ← dropIf .blockEnd then return []
    else stuck

/-- The items of a sequence in brackets. An item with a colon is a mapping of one entry. -/
def flowItems (first : Bool) : (fuel : Nat) → Reading (List Node)
  | 0 => throw .malformed
  | fuel + 1 => do
    if ← dropIf .flowSequenceEnd then return []
    else
      if !first then
        if !(← dropIf .flowEntry) then stuck
      if ← dropIf .key then
        let k ← nodeOrEmpty .inFlow [.value, .flowEntry, .flowSequenceEnd] fuel
        let v ← if ← dropIf .value then
            nodeOrEmpty .inFlow [.flowEntry, .flowSequenceEnd] fuel
          else pure .empty
        return .mapping .mapping [(k, v)] :: (← flowItems false fuel)
      else if ← dropIf .flowSequenceEnd then return []
      else
        let n ← node .inFlow fuel
        return n :: (← flowItems false fuel)

/-- The entries of a mapping in braces. -/
def flowEntries (first : Bool) : (fuel : Nat) → Reading (List (Node × Node))
  | 0 => throw .malformed
  | fuel + 1 => do
    if ← dropIf .flowMappingEnd then return []
    else
      if !first then
        if !(← dropIf .flowEntry) then stuck
      if ← dropIf .key then
        let k ← nodeOrEmpty .inFlow [.value, .flowEntry, .flowMappingEnd] fuel
        let v ← if ← dropIf .value then
            nodeOrEmpty .inFlow [.flowEntry, .flowMappingEnd] fuel
          else pure .empty
        return (k, v) :: (← flowEntries false fuel)
      else if ← dropIf .flowMappingEnd then return []
      else
        let k ← node .inFlow fuel
        return (k, .empty) :: (← flowEntries false fuel)

end

/-! ## 4. Documents -/

/-- The handles every document has. -/
def defaultHandles : List (String × String) := [("!", "!"), ("!!", standardTags)]

/-- The directives before a document. The version is given at most once and its first number is 1,
    a handle is given at most once. -/
def directives : (fuel : Nat) → (versioned : Bool) → Reading Unit
  | 0, _ => throw .malformed
  | fuel + 1, versioned => do
    match ← next? with
    | some (.directive d) =>
      drop
      match d with
      | .version major =>
        if versioned || major != 1 then stuck else directives fuel true
      | .handle h beginning =>
        if ((← get).handles.lookup h).isSome then stuck
        else
          modify fun c => { c with handles := (h, beginning) :: c.handles }
          directives fuel versioned
      | .other => directives fuel versioned
    | _ => modify fun c => { c with handles := c.handles ++ defaultHandles }

/-- After the marks that end a document. -/
def dropEnds : (fuel : Nat) → Reading Unit
  | 0 => throw .malformed
  | fuel + 1 => do if ← dropIf .documentEnd then dropEnds fuel

/-- The document the tokens make up, if they make up one. A second one is refused. -/
def document (fuel : Nat) : Reading (Option Node) := do
  let explicit ← match ← next? with
    | some (.directive _) => pure true
    | some .documentStart => pure true
    | _ => pure false
  let content ←
    if explicit then
      directives fuel false
      if !(← dropIf .documentStart) then stuck
      match ← next? with
      | none => pure (some .empty)
      | some (.directive _) => pure (some .empty)
      | some .documentStart => pure (some .empty)
      | some .documentEnd => pure (some .empty)
      | some _ => some <$> node .inBlock fuel
    else
      modify fun c => { c with handles := defaultHandles }
      match ← next? with
      | none => pure none
      | some _ => some <$> node .inBlock fuel
  dropEnds fuel
  if (← next?).isSome then stuck
  return content

end Composer

/-- The node of the one document that some tokens make up; none if there is no document. -/
def Node.ofTokens? (ts : List Token) : Except ReadError (Option Node) :=
  (Composer.document (4 * ts.length + 8)).run' ⟨ts, [], []⟩

end DomainGen.Yaml
