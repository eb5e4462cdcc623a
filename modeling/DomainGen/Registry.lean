import DomainGen.Data.Entries
import DomainGen.Failure

/-!
# The registry of collections

The files generated for the entities of one walk, grouped by kind. A kind has one folder, that of
the first file registered under it.

* `Registry` : the groups; each kind has at most one, and none is empty;
* `Registry.register` : one file more; `register_of_find?_none`, `register_of_find?_some` : what comes of
  it;
* `Registry.collections` : the groups, in the order in which the kinds came;
* `Registry.Cursor` : going through the groups one at a time while others may be registered. Each
  group is taken as it is when its turn comes, and a kind that is new after the start ends the
  tour.
-/

namespace DomainGen

/-! ## 1. Collections -/

/-- A generated file of an entity. -/
structure CollectionItem where
  /-- The name of its class. -/
  className : String
  /-- The name of the file. -/
  fileName : String
  /-- The path of the file. -/
  fullPath : String
  deriving DecidableEq, Repr, Inhabited

/-- What templates are given of a generated file. -/
def CollectionItem.context (i : CollectionItem) : Data :=
  .mapping (Entries.ofFields [("className", .text i.className), ("fileName", .text i.fileName),
    ("fullPath", .text i.fullPath)])

/-- The generated files of one kind. -/
structure Collection where
  /-- The kind. -/
  kind : Kind
  /-- The folder of the kind. -/
  folder : String
  /-- The files. -/
  items : List CollectionItem
  deriving DecidableEq, Repr, Inhabited

/-- A collection with one file more, if it is that of a kind. -/
def Collection.adding (kind : Kind) (item : CollectionItem) (c : Collection) : Collection :=
  if c.kind == kind then { c with items := c.items ++ [item] } else c

/-- What the template of an index is given. -/
def Collection.context (c : Collection) : Entries :=
  Entries.ofFields [("kind", .text c.kind.text), ("folder", .text c.folder),
    ("items", .list (c.items.map CollectionItem.context))]

/-! ## 2. The registry -/

/-- The collections of a walk. -/
@[ext]
structure Registry where
  /-- The collections, in the order in which the kinds came. -/
  collections : List Collection
  /-- Each kind is there at most once. -/
  nodup_kinds : (collections.map Collection.kind).Nodup
  /-- No collection is empty. -/
  filled : ∀ c ∈ collections, c.items ≠ []
  deriving DecidableEq, Repr

namespace Registry

/-- Nothing registered. -/
def empty : Registry := ⟨[], .nil, fun _ h => absurd h List.not_mem_nil⟩

instance : Inhabited Registry := ⟨empty⟩

/-- The collection of a kind. -/
def find? (r : Registry) (kind : Kind) : Option Collection :=
  r.collections.find? (·.kind == kind)

section Register

variable {r : Registry} {kind : Kind}

/-- A kind that is not found has no collection. -/
theorem not_mem_kinds (h : r.find? kind = none) : kind ∉ r.collections.map Collection.kind := by
  intro hmem
  obtain ⟨c, hc, rfl⟩ := List.mem_map.mp hmem
  exact List.find?_eq_none.mp h c hc (beq_self_eq_true _)

/-- The registry with a collection for a kind that has none. -/
def opened (r : Registry) (h : r.find? kind = none) (folder : String) (item : CollectionItem) :
    Registry where
  collections := r.collections ++ [⟨kind, folder, [item]⟩]
  nodup_kinds := by
    rw [List.map_append, List.nodup_append]
    refine ⟨r.nodup_kinds, List.nodup_cons.mpr ⟨List.not_mem_nil, .nil⟩, fun k hk k' hk' heq => ?_⟩
    rw [heq, List.mem_singleton.mp hk'] at hk
    exact not_mem_kinds h hk
  filled c hc := by
    rcases List.mem_append.mp hc with hc | hc
    · exact r.filled c hc
    · rw [List.mem_singleton.mp hc]
      exact List.cons_ne_nil item []

/-- The registry with one file more in the collection of a kind. -/
def extended (r : Registry) (kind : Kind) (item : CollectionItem) : Registry where
  collections := r.collections.map (Collection.adding kind item)
  nodup_kinds := by
    have hkind : Collection.kind ∘ Collection.adding kind item = Collection.kind := by
      funext c
      unfold Function.comp Collection.adding
      split <;> rfl
    rw [List.map_map, hkind]
    exact r.nodup_kinds
  filled c hc := by
    obtain ⟨b, hb, rfl⟩ := List.mem_map.mp hc
    unfold Collection.adding
    split
    · exact List.append_ne_nil_of_right_ne_nil _ (List.cons_ne_nil _ _)
    · exact r.filled b hb

/-- The registry with one file more. A kind stays in its folder. -/
def register (r : Registry) (kind : Kind) (folder : String) (item : CollectionItem) :
    Except RegistryError Registry :=
  match h : r.find? kind with
  | none => .ok (r.opened h folder item)
  | some c =>
    if c.folder == folder then .ok (r.extended kind item)
    else .error (.otherFolder kind c.folder item.fullPath folder)

/-- The first file of a kind opens a collection. -/
theorem register_of_find?_none (h : r.find? kind = none) (folder : String) (item : CollectionItem) :
    r.register kind folder item = .ok (r.opened h folder item) := by
  unfold register
  split
  · rfl
  · rename_i heq
    cases h.symm.trans heq

/-- Any other file of the kind goes to that collection, if it is in the folder. -/
theorem register_of_find?_some {c : Collection} (h : r.find? kind = some c) (folder : String)
    (item : CollectionItem) : r.register kind folder item =
      if c.folder == folder then .ok (r.extended kind item)
      else .error (.otherFolder kind c.folder item.fullPath folder) := by
  unfold register
  split
  · rename_i heq
    cases h.symm.trans heq
  · rename_i heq
    cases h.symm.trans heq
    rfl

end Register

/-- The files of a kind. -/
def itemsOf (r : Registry) (kind : Kind) : List CollectionItem :=
  ((r.find? kind).map (·.items)).getD []

/-- The folder of a kind. -/
def folderOf (r : Registry) (kind : Kind) : Except RegistryError String :=
  match r.find? kind with
  | some c => .ok c.folder
  | none => .error (.notRegistered kind)

/-- Was a file of the kind registered? -/
def contains (r : Registry) (kind : Kind) : Bool :=
  !(r.itemsOf kind).isEmpty

/-- Is a plain value a kind that was registered? It never is, and only a value that can be a key
    can be asked for. -/
def containsData (_ : Registry) (x : Data) : Except Fault Bool :=
  if x.hashable then .ok false else .error .wrongKind

/-- How many files there are. -/
def total (r : Registry) : Nat :=
  (r.collections.flatMap (·.items)).length

/-- How many kinds there are. -/
def size (r : Registry) : Nat :=
  r.collections.length

/-! ## 3. One collection at a time -/

/-- A tour of the collections. -/
inductive Cursor where
  /-- Not started. -/
  | fresh
  /-- Started when there were `kinds` kinds, with `position` of them behind. -/
  | running (kinds position : Nat)
  | finished
  deriving DecidableEq, Repr, Inhabited

/-- What the next step of a tour gives. -/
inductive Step where
  | collection (c : Collection)
  /-- There are no more. -/
  | done
  /-- A kind has been added since the start. -/
  | changed
  deriving DecidableEq, Repr, Inhabited

/-- The next step of a tour. It starts with its first step. -/
def next (r : Registry) (cursor : Cursor) : Step × Cursor :=
  let go (kinds position : Nat) : Step × Cursor :=
    if kinds != r.size then (.changed, .finished)
    else match r.collections[position]? with
      | some c => (.collection c, .running kinds (position + 1))
      | none => (.done, .finished)
  match cursor with
  | .fresh => go r.size 0
  | .running kinds position => go kinds position
  | .finished => (.done, .finished)

end Registry

end DomainGen
