import DomainGen.Proofs.Generation.ClassNames
import DomainGen.Proofs.Generation.IndexCollision
import DomainGen.Proofs.Naming.Prefixing
import DomainGen.Proofs.Path.Resolution

/-!
# Collisions in spite of a prefix

With a prefix entities of different aggregates may have one key: the key of the aggregate keeps their
files apart. What it does not keep apart are pairs of keys that are the same in a row, but for the
suffix, and those are all that collide.

* `components_behind`, `joinPath_stem_iff` : in one folder different stems are different paths,
  whatever the extension is;
* `Generator.Prefixes` : a kind whose names get a prefix, with the suffix of the kind;
* `paths_of_collision`, `outcome_of_one_path` : two entities that collide have one path, and different
  entities with one path are never all written;
* `prefixed_collisions` : **which entities with a prefix collide**;
* `prefixed_items_collide` : the item of an order and the addition to an order item.
-/

namespace DomainGen

open Text DomainGen.Path

/-! ## 1. Stems in a folder -/

/-- A text with a word and without slashes belongs to the first component of what it is put before. -/
theorem components_behind (ext : String) : ∃ piece rest, ∀ s : String, '/' ∉ s.toList →
    HasWord s.toList → ofString (s ++ ext) = ⟨.relative, (s ++ piece) :: rest⟩ := by
  obtain ⟨piece, pieces, hext⟩ := List.exists_cons_of_ne_nil (splitAt_ne_nil '/' ext.toList)
  refine ⟨String.ofList piece, (pieces.map String.ofList).filter isComponent,
    fun s hplain hword => ?_⟩
  have hfirst : String.ofList (s.toList ++ piece) = s ++ String.ofList piece := by
    refine String.toList_injective ?_
    rw [String.toList_ofList, String.toList_append, String.toList_ofList]
  have hcomponent : isComponent (s ++ String.ofList piece) = true := by
    have hlong : HasWord (s ++ String.ofList piece).toList := by
      rw [String.toList_append]
      exact hword.append_left
    unfold isComponent
    rw [Bool.and_eq_true, bne_iff_ne, bne_iff_ne]
    exact ⟨hlong.ne_dots.1, hlong.ne_dots.2.1⟩
  have hroot := ofChars_append (mt String.toList_eq_nil_iff.mp hword.ne_dots.1)
    (fun h => hplain (List.mem_of_mem_head? h)) ext.toList
  rw [ofString_toList, String.toList_append, hroot]
  unfold componentsOfChars
  rw [splitAt_append hext hplain, List.map_cons, hfirst, List.filter_cons_of_pos hcomponent]

/-- **In one folder different stems are different paths**, whatever stands behind them. -/
theorem joinPath_stem_iff {stem stem' : String} (hplain : '/' ∉ stem.toList)
    (hword : HasWord stem.toList) (hplain' : '/' ∉ stem'.toList) (hword' : HasWord stem'.toList)
    (folder ext : String) :
    joinPath [folder, stem ++ ext] = joinPath [folder, stem' ++ ext] ↔ stem = stem' := by
  refine ⟨fun h => ?_, fun h => by rw [h]⟩
  obtain ⟨piece, rest, hread⟩ := components_behind ext
  have hpaths := congrArg ofString h
  rw [ofString_joinPath, ofString_joinPath] at hpaths
  simp only [List.map_cons, List.map_nil, join_pair, hread stem hplain hword,
    hread stem' hplain' hword', append] at hpaths
  have hcomponents := List.append_cancel_left (Path.mk.inj hpaths).2
  exact (String.append_left_inj piece).mp (List.cons.inj hcomponents).1

/-! ## 2. Kinds with a prefix -/

/-- The names of a kind get a prefix and have the suffix of the kind, as they do unless it is
    changed. -/
structure Generator.Prefixes (g : Generator) (kind : Kind) : Prop where
  prefixed : (g.policyOf kind).prefixAggregateName = true
  suffix : (g.policyOf kind).suffix = (defaultPolicy (g.policyOf kind).extension (some kind)).suffix

/-- The suffix of a kind is a word of letters. -/
theorem alphanumeric_title (kind : Kind) : Alphanumeric kind.title := by
  cases kind <;> decide +kernel

section Kinds

variable {g : Generator} {kind : Kind} {owner name owner' name' : String}

namespace Generator.Prefixes

/-- The suffix of a kind that gets a prefix. -/
theorem alphanumeric_suffix (h : g.Prefixes kind) : Alphanumeric (g.policyOf kind).suffix := by
  rw [h.suffix]
  exact alphanumeric_title kind

/-- **File names with a prefix are one exactly if the keys, in a row, are the same but for the
    suffix.** -/
theorem fileName_eq_iff (h : g.Prefixes kind) (howner : Alphanumeric owner)
    (hname : Alphanumeric name) (howner' : Alphanumeric owner') (hname' : Alphanumeric name') :
    (g.policyOf kind).fileName name (some owner) = (g.policyOf kind).fileName name' (some owner') ↔
      SameButSuffix (g.policyOf kind).suffix (prefixedKey owner name)
        (prefixedKey owner' name') := by
  rw [NamingPolicy.fileName_eq_stem, NamingPolicy.fileName_eq_stem, String.append_left_inj,
    NamingPolicy.stem_eq_iff h.prefixed h.alphanumeric_suffix.unhyphened howner hname howner'
      hname']

/-- In the folder of the kind different file names are different paths. -/
theorem path_eq_iff (h : g.Prefixes kind) (howner : Alphanumeric owner)
    (hname : Alphanumeric name) (howner' : Alphanumeric owner') (hname' : Alphanumeric name') :
    joinPath [(g.policyOf kind).folder, (g.policyOf kind).fileName name (some owner)] =
        joinPath [(g.policyOf kind).folder, (g.policyOf kind).fileName name' (some owner')] ↔
      (g.policyOf kind).fileName name (some owner) =
        (g.policyOf kind).fileName name' (some owner') := by
  have hstem : ∀ {a x : String}, Alphanumeric a → Alphanumeric x →
      '/' ∉ ((g.policyOf kind).stem x (some a)).toList := by
    intro a x ha hx
    have hslash : Char.isAlphanum '/' = false := by decide
    have hkey : (g.policyOf kind).ownerKey (some a) = a := if_pos h.prefixed
    refine NamingPolicy.slash_not_mem_stem (h.alphanumeric_suffix.not_mem hslash)
      (hx.not_mem hslash) ?_
    rw [hkey]
    exact ha.not_mem hslash
  have hword := NamingPolicy.hasWord_stem (p := g.policyOf kind) h.alphanumeric_suffix.hasWord
  rw [NamingPolicy.fileName_eq_stem, NamingPolicy.fileName_eq_stem, String.append_left_inj,
    joinPath_stem_iff (hstem howner hname) (hword _ _) (hstem howner' hname') (hword _ _)]

end Generator.Prefixes

/-! ## 3. Collisions of entities -/

variable {ρ σ : Type} {render : Renderer ρ} {sink : Sink σ} {m : Model} {clash : Collision}

/-- The slot of an entity is that of an entity of the model. -/
theorem entity_of_slot {slot : FileSlot} (hslot : slot ∈ g.layout m)
    (hitem : slot.1 = .entity kind owner name) {path : String} (hpath : slot.2.1 = .ok path) :
    ∃ x ∈ m.entities, x.item = .entity kind owner name ∧ g.entityPath x = path := by
  have hmem : slot ∈ (g.layout m).filter (·.1.isEntity) :=
    List.mem_filter.mpr ⟨hslot, hitem ▸ rfl⟩
  rw [filter_layout] at hmem
  obtain ⟨x, hx, rfl⟩ := List.mem_map.mp hmem
  exact ⟨x, hx, hitem, Except.ok.inj hpath⟩

/-- The path of an entity, given its item. -/
theorem entityPath_of_item {x : Entity} (h : x.item = .entity kind owner name) :
    g.entityPath x =
      joinPath [(g.policyOf kind).folder, (g.policyOf kind).fileName name (some owner)] := by
  obtain ⟨rfl, rfl, rfl⟩ := Item.entity.inj h
  rfl

/-- **Two entities that collide have one path.** -/
theorem paths_of_collision (hf : m.Fresh) (hrender : render.NoCollisions) {e : ρ} {s : σ}
    (ho : (g.generate render sink m e s).outcome = .error (.collision clash))
    (hfirst : clash.first = .entity kind owner name)
    (hsecond : clash.second = .entity kind owner' name') :
    joinPath [(g.policyOf kind).folder, (g.policyOf kind).fileName name (some owner)] =
      joinPath [(g.policyOf kind).folder, (g.policyOf kind).fileName name' (some owner')] := by
  obtain ⟨before, first, second, after, hlayout, hmem, hitem, hpath, hitem', hpath'⟩ :=
    slots_of_collision hf hrender ho
  have hin : first ∈ g.layout m := hlayout ▸ List.mem_append_left _ hmem
  have hin' : second ∈ g.layout m := hlayout ▸ List.mem_append_right _ List.mem_cons_self
  obtain ⟨x, _, hx, hto⟩ := entity_of_slot hin (hitem.trans hfirst) hpath
  obtain ⟨y, _, hy, hto'⟩ := entity_of_slot hin' (hitem'.trans hsecond) hpath'
  rw [← entityPath_of_item hx, ← entityPath_of_item hy, hto, hto']

/-- Different entities with one path are never all written. -/
theorem outcome_of_one_path (hf : m.Fresh) {x y : Entity} (hx : x ∈ m.entities)
    (hy : y ∈ m.entities) (hne : x ≠ y) (hpath : g.entityPath x = g.entityPath y) (e : ρ) (s : σ)
    (gen : Generated) : (g.generate render sink m e s).outcome ≠ .ok gen := fun hgen =>
  hne (List.inj_on_of_nodup_map (nodup_entityPaths g hf hgen) hx hy hpath)

end Kinds

/-! ## 4. Items of an order -/

/-- An order with an item that was added, and an order item with an addition. -/
def itemsDocument : Data :=
  .mapping [(.text "aggregates", .mapping [
    (.text "order", .mapping [(.text "events", .mapping [(.text "itemAdded", .null)])]),
    (.text "orderItem", .mapping [(.text "events", .mapping [(.text "added", .null)])])])]

/-- The model of the document. -/
def itemsModel : Model where
  aggregates := [
    ⟨"order", [], [(.event, [⟨.event, "itemAdded", "order", [], none⟩])], none⟩,
    ⟨"orderItem", [], [(.event, [⟨.event, "added", "orderItem", [], none⟩])], none⟩]
  extra := []
  source := none

theorem ofDocument_items : Model.ofDocument itemsDocument none = .ok itemsModel := rfl

/-- The files of the model, if they could all be placed. -/
def itemsFiles : List (Item × GeneratedFile) := [
  (.aggregate "order", ⟨"aggregates/order.js", "0", some "Order"⟩),
  (.entity .event "order" "itemAdded",
    ⟨"events/order-item-added-event.js", "1", some "OrderItemAddedEvent"⟩),
  (.aggregate "orderItem", ⟨"aggregates/order-item.js", "2", some "OrderItem"⟩),
  (.entity .event "orderItem" "added",
    ⟨"events/order-item-added-event.js", "3", some "OrderItemAddedEvent"⟩),
  (.kindIndex .event, ⟨"events/index.js", "4", none⟩),
  (.rootIndex, ⟨"index.js", "5", none⟩)]

/-- The collision of the two events. -/
def itemsClash : Collision where
  path := "events/order-item-added-event.js"
  first := .entity .event "order" "itemAdded"
  second := .entity .event "orderItem" "added"

theorem generate_items : (prefixingGenerator.generate countingRenderer memorySink itemsModel 0
    []).outcome = .error (.collision itemsClash) := by
  have hr : renderSteps countingRenderer 0 (prefixingGenerator.plan itemsModel) =
      .ok itemsFiles := by decide +kernel
  have hrepeat : FirstRepeat itemsFiles itemsClash :=
    ⟨itemsFiles.take 3, _, itemsFiles.drop 4, rfl, by decide, itemsFiles[1], by decide, rfl, rfl⟩
  exact (outcome_error_iff_firstRepeat Sink.memorySink_acceptsAll prefixingGenerator
    (fresh_ofDocument ofDocument_items) hr [] _).mpr ⟨_, rfl, hrepeat⟩

theorem prefixes_events : prefixingGenerator.Prefixes .event := ⟨rfl, rfl⟩

theorem countingRenderer_noCollisions : countingRenderer.NoCollisions := by
  intro e template context c h
  cases h

/-! ## 5. Main result -/

/-- **Which entities with a prefix collide.** For a kind whose names get a prefix and have the suffix
    of the kind, let two aggregates have different keys, capitalised, and let these and the keys of
    their entities be letters and digits. The entities have one file name exactly if the keys in a row
    are the same but for the suffix, which needs that one aggregate's key begins with the other's.
    Unless they are, no walk over a model that was read ends in the collision of the two; if they are,
    no walk over a model with both of them succeeds. -/
theorem prefixed_collisions (g : Generator) {kind : Kind} (h : g.Prefixes kind)
    {owner name owner' name' : String} (howner : Alphanumeric owner) (hname : Alphanumeric name)
    (howner' : Alphanumeric owner') (hname' : Alphanumeric name')
    (hne : capitalizeFirst owner ≠ capitalizeFirst owner') :
    let same := SameButSuffix (g.policyOf kind).suffix (prefixedKey owner name)
      (prefixedKey owner' name')
    ((g.policyOf kind).fileName name (some owner) =
      (g.policyOf kind).fileName name' (some owner') ↔ same) ∧
    (same → (capitalizeFirst owner).toList <+: (capitalizeFirst owner').toList ∨
      (capitalizeFirst owner').toList <+: (capitalizeFirst owner).toList) ∧
    ∀ {document : Data} {source : Option String} {m₀ : Model},
      Model.ofDocument document source = .ok m₀ →
      ∀ {ρ σ : Type} {render : Renderer ρ} (sink : Sink σ) (e : ρ) (s : σ),
        (∀ {m : Model} {clash : Collision}, m₀.Later m → render.NoCollisions →
          (g.generate render sink m e s).outcome = .error (.collision clash) →
          clash.first = .entity kind owner name → clash.second = .entity kind owner' name' →
            same) ∧
        (∀ x ∈ m₀.entities, ∀ y ∈ m₀.entities, x.item = .entity kind owner name →
          y.item = .entity kind owner' name' → same →
            ∀ gen, (g.generate render sink m₀ e s).outcome ≠ .ok gen) := by
  intro same
  have hfile := h.fileName_eq_iff howner hname howner' hname'
  have hpath := (h.path_eq_iff howner hname howner' hname').trans hfile
  refine ⟨hfile, SameButSuffix.owners, fun {document source m₀} hm₀ {ρ σ render} sink e s =>
    ⟨fun {m clash} hm hrender ho hfirst hsecond => ?_, fun x hx y hy hxi hyi hsame => ?_⟩⟩
  · rcases hm.fresh_or_named (fresh_ofDocument hm₀) with hf | ⟨a, rest, x, ha, hx⟩
    · exact hpath.mp (paths_of_collision hf hrender ho hfirst hsecond)
    · -- a model that has its names is not walked over
      rw [g.generate_named render sink ha hx e s] at ho
      cases ho
  · have hdiffer : x ≠ y := by
      rintro rfl
      have hkeys : owner = owner' := (Item.entity.inj (hxi.symm.trans hyi)).2.1
      exact hne (congrArg capitalizeFirst hkeys)
    refine outcome_of_one_path (fresh_ofDocument hm₀) hx hy hdiffer ?_ e s
    rw [entityPath_of_item hxi, entityPath_of_item hyi]
    exact hpath.mpr hsame

/-- Events that do not collide, those of an order and of an order item that do, and a key that ends with
    the suffix beside one that gets it. -/
theorem prefixed_collisions_items :
    prefixingGenerator.event.fileName "itemAdded" (some "order") ≠
      prefixingGenerator.event.fileName "removed" (some "orderItem") ∧
    SameButSuffix "Event" (prefixedKey "order" "itemAdded") (prefixedKey "orderItem" "added") ∧
    ("Order".toList <+: "OrderItem".toList ∨ "OrderItem".toList <+: "Order".toList) ∧
    (∀ gen, (prefixingGenerator.generate countingRenderer memorySink itemsModel 0 []).outcome ≠
      .ok gen) ∧
    prefixingGenerator.event.fileName "event" (some "orderPlaced") =
      prefixingGenerator.event.fileName "placed" (some "order") := by
  have horder : Alphanumeric "order" := by decide +kernel
  have hitem : Alphanumeric "orderItem" := by decide +kernel
  have hitemAdded : Alphanumeric "itemAdded" := by decide +kernel
  have hadded : Alphanumeric "added" := by decide +kernel
  have hremoved : Alphanumeric "removed" := by decide +kernel
  have hplaced : Alphanumeric "placed" := by decide +kernel
  have horderPlaced : Alphanumeric "orderPlaced" := by decide +kernel
  have hevent : Alphanumeric "event" := by decide +kernel
  have hcapitals : capitalizeFirst "order" = "Order" ∧ capitalizeFirst "orderItem" = "OrderItem" ∧
      capitalizeFirst "orderPlaced" = "OrderPlaced" := by decide +kernel
  obtain ⟨horderCapital, hitemCapital, hplacedCapital⟩ := hcapitals
  have hne : capitalizeFirst "order" ≠ capitalizeFirst "orderItem" := by
    rw [horderCapital, hitemCapital]
    decide
  have hne' : capitalizeFirst "orderPlaced" ≠ capitalizeFirst "order" := by
    rw [horderCapital, hplacedCapital]
    decide
  obtain ⟨hapart, -⟩ := prefixed_collisions prefixingGenerator prefixes_events horder hitemAdded
    hitem hremoved hne
  obtain ⟨-, howners, hwalks⟩ := prefixed_collisions prefixingGenerator prefixes_events horder
    hitemAdded hitem hadded hne
  obtain ⟨hsuffixed, -⟩ := prefixed_collisions prefixingGenerator prefixes_events horderPlaced
    hevent horder hplaced hne'
  obtain ⟨hcollide, hnever⟩ :=
    @hwalks itemsDocument none itemsModel ofDocument_items Nat _ countingRenderer memorySink 0 []
  have hsame := hcollide .now countingRenderer_noCollisions generate_items rfl rfl
  have hprefixes := howners hsame
  rw [horderCapital, hitemCapital] at hprefixes
  refine ⟨hapart.not.mpr (by decide +kernel), hsame, hprefixes, ?_,
    hsuffixed.mpr (by decide +kernel)⟩
  have hentities : itemsModel.entities = [⟨.event, "itemAdded", "order", [], none⟩,
      ⟨.event, "added", "orderItem", [], none⟩] := rfl
  exact hnever _ (hentities ▸ List.mem_cons_self) _
    (hentities ▸ List.mem_cons_of_mem _ List.mem_cons_self) rfl rfl hsame

/-- **Events of two aggregates collide in spite of the prefix.** -/
theorem prefixed_items_collide :
    prefixingGenerator.Prefixes .event ∧
      (∀ key ∈ ["order", "itemAdded", "orderItem", "added"], Alphanumeric key) ∧
      capitalizeFirst "order" ≠ capitalizeFirst "orderItem" ∧
      prefixingGenerator.event.fileName "itemAdded" (some "order") =
        prefixingGenerator.event.fileName "added" (some "orderItem") ∧
      Model.ofDocument itemsDocument none = .ok itemsModel ∧
      (prefixingGenerator.generate countingRenderer memorySink itemsModel 0 []).outcome =
        .error (.collision itemsClash) := by
  refine ⟨prefixes_events, ?_, ?_, ?_, ofDocument_items, generate_items⟩
  · decide +kernel
  · decide +kernel
  · decide +kernel

end DomainGen
