import DomainGen.Proofs.Generation.Indexes
import DomainGen.Proofs.Naming.FileName
import DomainGen.Proofs.Path.Spelling
import DomainGen.Proofs.Path.Resolution

/-!
# Import specifiers of generated files

Generated files import one another. An index names the files beside it, an aggregate those in the
folders of its entities; both leave the extension out. With folders that do not climb, plain
extensions and keys without slashes such a specifier leads to the file it is meant for.

* `NamingPolicy.Importable`, `Generator.Importable`, `Model.PlainKeys` : what is asked of the names;
* `NamingPolicy.Importable.stripExtension_fileName` : without its extension a file name is its stem;
* `resolve_entity` : **from any folder whose way to the folder of an entity is given, the stem leads
  to the file of the entity**;
* `resolve_beside`, `resolve_kindPath` : so it does from the folder of the kind and from that of the
  aggregates.
-/

namespace DomainGen

open DomainGen.Path

/-! ## 1. Names that can be imported -/

/-- The files a policy names can be imported: they lie below the root, their extension is plain, and
    their suffix has a letter, or another character that is not a dot, but no slash. -/
structure NamingPolicy.Importable (p : NamingPolicy) : Prop where
  below : (ofString p.folder).StaysBelow
  extension : ∃ x, p.extension = "." ++ x ∧ x ≠ "" ∧ '.' ∉ x.toList ∧ '/' ∉ x.toList
  word : HasWord p.suffix.toList
  plain : '/' ∉ p.suffix.toList

/-- All files a generator names can be imported, and the index of a kind has a name. -/
structure Generator.Importable (g : Generator) : Prop where
  aggregate : g.aggregate.Importable
  kinds : ∀ kind, (g.policyOf kind).Importable
  index : ∃ s, g.config.subModuleName = .text s ∧ IsName s

/-- No key of a model has a slash. -/
structure Model.PlainKeys (m : Model) : Prop where
  aggregates : ∀ a ∈ m.aggregates, '/' ∉ a.name.toList
  entities : ∀ x ∈ m.entities, '/' ∉ x.name.toList

namespace NamingPolicy.Importable

variable {p : NamingPolicy} {name : String} {owner : Option String}

theorem isName_stem (h : p.Importable) (hname : '/' ∉ name.toList)
    (howner : '/' ∉ (p.ownerKey owner).toList) : IsName (p.stem name owner) :=
  .of_ne (slash_not_mem_stem h.plain hname howner) (hasWord_stem h.word name owner).ne_dots

theorem isName_fileName (h : p.Importable) (hname : '/' ∉ name.toList)
    (howner : '/' ∉ (p.ownerKey owner).toList) : IsName (p.fileName name owner) := by
  obtain ⟨x, hx, _, _, hslash⟩ := h.extension
  have hextension : '/' ∉ p.extension.toList := by
    rw [hx, String.toList_append, List.mem_append, not_or]
    exact ⟨by decide, hslash⟩
  have hword : HasWord (p.stem name owner ++ p.extension).toList := by
    rw [String.toList_append]
    exact (hasWord_stem h.word name owner).append_left
  rw [fileName_eq_stem]
  refine .of_ne ?_ hword.ne_dots
  rw [String.toList_append, List.mem_append, not_or]
  exact ⟨slash_not_mem_stem h.plain hname howner, hextension⟩

theorem stripExtension_fileName (h : p.Importable) (name : String) (owner : Option String) :
    stripExtension (p.fileName name owner) = p.stem name owner := by
  obtain ⟨x, hx, _, hdot, _⟩ := h.extension
  exact NamingPolicy.stripExtension_fileName h.word hx hdot name owner

end NamingPolicy.Importable

/-- The key that is put in front of a file name has no slash if no key has one. -/
theorem slash_not_mem_ownerKey {p : NamingPolicy} {owner : String} (h : '/' ∉ owner.toList) :
    '/' ∉ (p.ownerKey (some owner)).toList := by
  unfold NamingPolicy.ownerKey
  dsimp only
  split
  · exact h
  · exact List.not_mem_nil

/-! ## 2. Specifiers of entities -/

section Entities

variable {g : Generator} {m : Model}

/-- The keys an entity of a read model is named by have no slash. -/
theorem plainKeys_entity (hf : m.Fresh) (hk : m.PlainKeys) {x : Entity} (hx : x ∈ m.entities) :
    '/' ∉ x.name.toList ∧ '/' ∉ x.owner.toList := by
  refine ⟨hk.entities x hx, ?_⟩
  obtain ⟨a, ha, hxa⟩ := List.mem_flatMap.mp hx
  rw [((hf.aggregates a ha).entity hxa).1]
  exact hk.aggregates a ha

/-- **The stem of an entity leads to its file** from every folder, behind the way from there to the
    folder of its kind. -/
theorem resolve_entity (hg : g.Importable) (hf : m.Fresh) (hk : m.PlainKeys) {x : Entity}
    (hx : x ∈ m.entities) {folder name before : String} {steps : List String}
    (hfolder : (ofString folder).StaysBelow) (hname : IsName name) (hbefore : before ≠ "")
    (hway : ofString before = ⟨.relative, steps⟩)
    (hsteps : ((ofString folder).components ++ steps).foldl (normalStep false) [] =
      (ofString (g.kindFolder x.kind)).normalize.components.reverse) :
    resolve (joinPath [folder, name]) (before ++ "/" ++ stripExtension (g.namesOf x).fileName) ++
        (g.policyOf x.kind).extension = normalText (g.entityPath x) := by
  have hp := hg.kinds x.kind
  obtain ⟨hkey, howner⟩ := plainKeys_entity hf hk hx
  have hfront : '/' ∉ ((g.policyOf x.kind).ownerKey (some x.owner)).toList :=
    slash_not_mem_ownerKey howner
  have hstem := hp.isName_stem hkey hfront
  have hfile := hp.isName_fileName hkey hfront
  have hstrip : stripExtension (g.namesOf x).fileName =
      (g.policyOf x.kind).stem x.name (some x.owner) := hp.stripExtension_fileName _ _
  have hspecifier : ofString (before ++ "/" ++ (g.policyOf x.kind).stem x.name (some x.owner)) =
      ⟨.relative, steps ++ [(g.policyOf x.kind).stem x.name (some x.owner)]⟩ := by
    rw [ofString_slash hbefore (congrArg Path.root hway), hway, hstem.ofString_eq]
  rw [hstrip]
  exact resolve_append (root_of_relative hfolder.1) hname hp.below hstem hfile hspecifier hsteps

/-- From the folder of its kind an entity is beside. -/
theorem resolve_beside (hg : g.Importable) (hf : m.Fresh) (hk : m.PlainKeys) {x : Entity}
    (hx : x ∈ m.entities) {name : String} (hname : IsName name) :
    resolve (joinPath [g.kindFolder x.kind, name])
        ("./" ++ stripExtension (g.namesOf x).fileName) ++ (g.policyOf x.kind).extension =
      normalText (g.entityPath x) := by
  have hbelow : (ofString (g.kindFolder x.kind)).StaysBelow := (hg.kinds x.kind).below
  have hdot : ofString "." = ⟨.relative, []⟩ := by decide +kernel
  have hspelled : "./" = "." ++ "/" := by decide
  rw [hspelled]
  refine resolve_entity hg hf hk hx hbelow hname (by decide : "." ≠ "") hdot ?_
  rw [List.append_nil]
  exact hbelow.foldl_normalStep

/-- From the folder of the aggregates an entity is on the way to its kind. -/
theorem resolve_kindPath (hg : g.Importable) (hf : m.Fresh) (hk : m.PlainKeys) {x : Entity}
    (hx : x ∈ m.entities) {name : String} (hname : IsName name) :
    resolve (joinPath [g.aggregate.folder, name])
        (g.kindPath x.kind ++ "/" ++ stripExtension (g.namesOf x).fileName) ++
        (g.policyOf x.kind).extension = normalText (g.entityPath x) := by
  have hstart := hg.aggregate.below
  have htarget : (ofString (g.kindFolder x.kind)).StaysBelow := (hg.kinds x.kind).below
  obtain ⟨hne, hway⟩ := ofString_relativeFolder g.workingFolder hstart htarget
  refine resolve_entity hg hf hk hx hstart hname hne hway ?_
  rw [List.foldl_append, hstart.foldl_normalStep]
  exact foldl_wayBetween hstart.2 htarget.2

end Entities

/-! ## 3. Indexes and aggregates -/

theorem isTrue_of_isName {s : String} (hs : IsName s) : (Data.text s).isTrue = true := by
  show (s != "") = true
  rw [bne_iff_ne]
  rintro rfl
  exact absurd hs.component (by decide)

/-- The index of a kind lies in the folder of the kind. -/
theorem joinParts_index (folder : String) {s : String} (hs : IsName s) :
    joinParts [.text folder, .text s] = .ok (joinPath [folder, s]) := by
  have hpart : (Data.text s).part? = some s := if_pos (isTrue_of_isName hs)
  rw [joinParts_folder, hpart]

/-- Where the index of some files of a kind goes. -/
theorem path_kindIndexFile {g : Generator} {s : String} (hindex : g.config.subModuleName = .text s)
    (hs : IsName s) (c : Collection) :
    (g.kindIndexFile c).path = .ok (joinPath [c.folder, s]) := by
  unfold Generator.kindIndexFile
  dsimp only
  rw [hindex, joinParts_index c.folder hs]
  rfl

/-- The index of a kind lists the entities of the kind, as they were registered. -/
theorem itemsAmong_registrations (g : Generator) (m : Model) (kind : Kind) :
    Registry.itemsAmong (m.entities.map g.registration) kind =
      (m.entities.filter (·.kind == kind)).map fun x => (g.registration x).2 := by
  unfold Registry.itemsAmong
  rw [List.filter_map, List.map_map]
  rfl

/-- The file of an aggregate has a name. -/
theorem isName_aggregate {g : Generator} {m : Model} (hg : g.Importable) (hk : m.PlainKeys)
    {a : Aggregate} (ha : a ∈ m.aggregates) : IsName (g.aggregateNames a.name).fileName :=
  hg.aggregate.isName_fileName (hk.aggregates a ha) List.not_mem_nil

end DomainGen
