import DomainGen.Proofs.Generation.Indexes
import DomainGen.Proofs.Generation.Listing
import DomainGen.Proofs.Generation.Renaming
import DomainGen.Proofs.Naming.ClassName

/-!
# Class names in an index

A walk compares the paths of its files, not the classes in them. Entities of one kind lie in one
folder, so different paths are different file names, and these are class names in another form --
unless a prefix makes the two come apart.

* `Generator.entityPath_congr` : entities of one kind with one class name have one path, unless their
  names come apart;
* `nodup_classNames` : entities of one kind have different class names;
* `generate_classNames` : **the class names in an index are different, but for entities whose class
  name and file name come apart**;
* `prefixed_classNames` : an index in which they are not;
* `names_unprefixed` : **without a prefix a file name is the class name, hyphenated, and after a walk
  that succeeds the entities of a kind have different class names**.
-/

namespace DomainGen

variable {ρ σ : Type} {render : Renderer ρ} {sink : Sink σ} {m : Model}

/-! ## 1. Entities of one kind -/

namespace Generator

variable (g : Generator)

/-- The class name and the file name of an entity come apart. -/
def diverges (e : Entity) : Bool := (g.policyOf e.kind).diverges e.name e.owner

/-- Entities of one kind with one class name have one path, unless their names come apart. -/
theorem entityPath_congr {e e' : Entity} (hkind : e.kind = e'.kind)
    (he : g.diverges e = false) (he' : g.diverges e' = false)
    (hclass : (g.namesOf e).className = (g.namesOf e').className) :
    g.entityPath e = g.entityPath e' := by
  have hfile : ∀ {x : Entity}, g.diverges x = false → (g.namesOf x).fileName =
      splitOnCapitals (g.namesOf x).className "-" ++ (g.policyOf x.kind).extension :=
    fun hx => NamingPolicy.fileName_eq hx
  unfold entityPath
  rw [hfile he, hfile he', hclass, hkind]

/-- Without a prefix no names come apart. -/
theorem filter_diverges (m : Model) {kind : Kind}
    (h : (g.policyOf kind).prefixAggregateName = false) :
    ((m.entities.filter (·.kind == kind)).filter fun x => !g.diverges x) =
      m.entities.filter (·.kind == kind) := by
  refine List.filter_eq_self.mpr fun x hx => ?_
  have hkind : x.kind = kind := beq_iff_eq.mp (List.mem_filter.mp hx).2
  have hno : g.diverges x = false := NamingPolicy.not_diverges (hkind ▸ h) x.name x.owner
  rw [hno]
  rfl

/-- The index of a kind has the class names of its entities. -/
theorem classNames_itemsAmong (m : Model) (kind : Kind) :
    (Registry.itemsAmong (m.entities.map g.registration) kind).map (·.className) =
      (m.entities.filter (·.kind == kind)).map fun x => (g.namesOf x).className := by
  unfold Registry.itemsAmong
  rw [List.filter_map, List.map_map, List.map_map]
  rfl

end Generator

/-- **Entities of one kind have different class names** if their names do not come apart. -/
theorem nodup_classNames (g : Generator) (h : m.Fresh) {e : ρ} {s : σ} {gen : Generated}
    (hgen : (g.generate render sink m e s).outcome = .ok gen) (kind : Kind) :
    (((m.entities.filter (·.kind == kind)).filter fun x => !g.diverges x).map
      fun x => (g.namesOf x).className).Nodup := by
  have hpaths := nodup_entityPaths g h hgen
  have hsub : ((m.entities.filter (·.kind == kind)).filter fun x => !g.diverges x).Sublist
      m.entities := List.filter_sublist.trans List.filter_sublist
  have hinj := List.inj_on_of_nodup_map (hpaths.sublist (hsub.map g.entityPath))
  refine (hpaths.of_map.sublist hsub).map_on fun x hx y hy heq => hinj hx hy ?_
  obtain ⟨hxs, hx⟩ := List.mem_filter.mp hx
  obtain ⟨hys, hy⟩ := List.mem_filter.mp hy
  have hkind : x.kind = y.kind :=
    (beq_iff_eq.mp (List.mem_filter.mp hxs).2).trans (beq_iff_eq.mp (List.mem_filter.mp hys).2).symm
  exact g.entityPath_congr hkind (by simpa using hx) (by simpa using hy) heq

/-! ## 2. Main result -/

/-- **The class names in an index are different, but for entities whose class name and file name
    come apart.** A successful walk ends with one collection for each populated kind, which its
    index lists; without a prefix all class names in it are different. -/
theorem generate_classNames (g : Generator) {document : Data} {source : Option String}
    (h : Model.ofDocument document source = .ok m) {e : ρ} {s : σ} {gen : Generated}
    (hgen : (g.generate render sink m e s).outcome = .ok gen) :
    ∃ w, (g.walk render sink (g.generate render sink m e s).model).runFrom (.start e s) =
        (.ok (), w) ∧ w.files = gen.files ∧
      w.registry.collections.map (·.kind) = m.populatedKinds ∧
      ∀ c ∈ w.registry.collections,
        c.items.map (·.className) = (m.entities.filter (·.kind == c.kind)).map
          (fun x => (g.namesOf x).className) ∧
        (((m.entities.filter (·.kind == c.kind)).filter fun x => !g.diverges x).map
          fun x => (g.namesOf x).className).Nodup ∧
        ((g.policyOf c.kind).prefixAggregateName = false →
          (c.items.map (·.className)).Nodup) := by
  have hf := fresh_ofDocument h
  obtain ⟨w, hw, hfiles, hregistry⟩ := generate_registry g hf hgen
  refine ⟨w, hw, hfiles, ?_, fun c hc => ?_⟩
  · rw [hregistry, g.collections_registryOf, List.map_map]
    exact List.map_id _
  · rw [hregistry, g.collections_registryOf] at hc
    obtain ⟨kind, _, rfl⟩ := List.mem_map.mp hc
    have hitems := g.classNames_itemsAmong m kind
    have hdifferent := nodup_classNames g hf hgen kind
    refine ⟨hitems, hdifferent, fun (hunprefixed : (g.policyOf kind).prefixAggregateName = false) =>
      ?_⟩
    rw [g.filter_diverges m hunprefixed, ← hitems] at hdifferent
    exact hdifferent

/-- A generator that puts the aggregate's name in front of the names of events. -/
def prefixingGenerator : Generator :=
  { plainGenerator with event := ⟨".js", "events", "Event", true⟩ }

theorem generate_classNames_orders : ∃ (gen : Generated) (w : Walk Nat (List GeneratedFile)),
    (prefixingGenerator.generate countingRenderer memorySink orders 0 []).outcome = .ok gen ∧
      w.files = gen.files ∧ w.registry.collections.map (·.kind) = [.event, .command] ∧
      ∀ c ∈ w.registry.collections,
        (((orders.entities.filter (·.kind == c.kind)).filter
          fun x => !prefixingGenerator.diverges x).map
            fun x => (prefixingGenerator.namesOf x).className).Nodup := by
  have hok : (prefixingGenerator.generate countingRenderer memorySink orders 0
      []).outcome.toOption.isSome = true := by decide +kernel
  cases hgen : (prefixingGenerator.generate countingRenderer memorySink orders 0 []).outcome with
  | error problem =>
      rw [hgen] at hok
      cases hok
  | ok gen =>
      obtain ⟨w, _, hfiles, hkinds, hall⟩ :=
        generate_classNames prefixingGenerator ofDocument_orders hgen
      have hpopulated : orders.populatedKinds = [.event, .command] := by decide +kernel
      exact ⟨gen, w, rfl, hfiles, hkinds.trans hpopulated, fun c hc => (hall c hc).2.1⟩

/-! ## 3. Class names that hide one another -/

/-- An aggregate whose name ends with the names of its events, and one whose name and the key of an
    event share the suffix between them. -/
def mergingDocument : Data :=
  .mapping [(.text "aggregates", .mapping [
    (.text "orderPlacedEvent", .mapping [(.text "events", .mapping [
      (.text "placed", .null), (.text "orderPlaced", .null)])]),
    (.text "eve", .mapping [(.text "events", .mapping [
      (.text "nt", .null), (.text "ntEvent", .null)])])])]

/-- The model of the document. -/
def mergingModel : Model where
  aggregates := [
    ⟨"orderPlacedEvent", [], [(.event, [⟨.event, "placed", "orderPlacedEvent", [], none⟩,
      ⟨.event, "orderPlaced", "orderPlacedEvent", [], none⟩])], none⟩,
    ⟨"eve", [], [(.event, [⟨.event, "nt", "eve", [], none⟩,
      ⟨.event, "ntEvent", "eve", [], none⟩])], none⟩]
  extra := []
  source := none

/-- **With a prefix, one class name can stand for several events**: the walk succeeds, the files are
    different, and the index lists two class names twice. -/
theorem prefixed_classNames : Model.ofDocument mergingDocument none = .ok mergingModel ∧
    (prefixingGenerator.generate countingRenderer memorySink mergingModel 0
      []).outcome.toOption.map (·.files.map (·.path)) =
        some ["aggregates/order-placed-event.js", "events/order-placed-event-placed-event.js",
          "events/order-placed-event-order-placed-event.js", "aggregates/eve.js",
          "events/eve-nt.js", "events/eve-nt-event.js", "events/index.js", "index.js"] ∧
    ((prefixingGenerator.walk countingRenderer memorySink
      (prefixingGenerator.generate countingRenderer memorySink mergingModel 0 []).model).runFrom
        (.start 0 [])).2.registry.collections.map (fun c => c.items.map (·.className)) =
      [["OrderPlacedEvent", "OrderPlacedEvent", "EveNtEvent", "EveNtEvent"]] ∧
    ¬ ["OrderPlacedEvent", "OrderPlacedEvent", "EveNtEvent", "EveNtEvent"].Nodup := by
  refine ⟨rfl, ?_, ?_, ?_⟩
  · decide +kernel
  · decide +kernel
  · decide

/-! ## 4. Names without a prefix -/

/-- The entities of a kind are given the class names that their keys give. -/
theorem Generator.classNames_decorated (g : Generator) (m : Model) (kind : Kind) :
    ((g.decorated m).entities.filter (·.kind == kind)).map (·.names) =
      (m.entities.filter (·.kind == kind)).map fun x => some (g.namesOf x) := by
  rw [entities_decorated, List.filter_map, List.map_map]
  rfl

/-- **Without a prefix a file name is the class name, hyphenated**, for aggregates under any policy
    and for entities under one that does not ask for a prefix, so that items with one class name have
    one file name. After a walk that succeeds all entities of a kind that gets no prefix are named,
    and no two of them have the same class name. -/
theorem names_unprefixed :
    (∀ n : Naming, n.Unprefixed → ∀ (name : String) (owner : Option String),
      n.fileName name owner =
        (n.publishedName name owner).map fun c => splitOnCapitals c "-" ++ n.policy.extension) ∧
    (∀ n : Naming, n.Unprefixed → ∀ (a b : String) (o o' : Option String),
      n.publishedName a o = n.publishedName b o' → n.fileName a o = n.fileName b o') ∧
    ∀ {ρ σ : Type} (g : Generator) (render : Renderer ρ) (sink : Sink σ) {document : Data}
      {source : Option String} {m : Model}, Model.ofDocument document source = .ok m →
      ∀ (e : ρ) (s : σ) (gen : Generated), (g.generate render sink m e s).outcome = .ok gen →
      ∀ kind, (g.policyOf kind).prefixAggregateName = false →
        let named := (g.generate render sink m e s).model.entities.filter (·.kind == kind)
        (∀ x ∈ named, x.names.isSome) ∧ (named.map fun x => x.names.map Names.className).Nodup := by
  refine ⟨fun n hn => Naming.fileName_eq_map hn, fun n hn a b o o' hclass => ?_, ?_⟩
  · rw [Naming.fileName_eq_map hn, Naming.fileName_eq_map hn, hclass]
  · intro ρ σ g render sink document source m hm e s gen hgen kind hplain named
    have hf := fresh_ofDocument hm
    have hnames : named.map (·.names) =
        (m.entities.filter (·.kind == kind)).map fun x => some (g.namesOf x) := by
      have hmodel : (g.generate render sink m e s).model = g.decorated m :=
        hf.model_generate g render sink e s
      show ((g.generate render sink m e s).model.entities.filter (·.kind == kind)).map (·.names) = _
      rw [hmodel, g.classNames_decorated]
    constructor
    · intro x hx
      have hmem : x.names ∈ named.map (·.names) := List.mem_map_of_mem hx
      rw [hnames] at hmem
      obtain ⟨y, _, hy⟩ := List.mem_map.mp hmem
      rw [← hy]
      rfl
    · have hdifferent := nodup_classNames g hf hgen kind
      rw [g.filter_diverges m hplain] at hdifferent
      have hclasses : (named.map fun x => x.names.map Names.className) =
          ((m.entities.filter (·.kind == kind)).map fun x => (g.namesOf x).className).map some := by
        rw [List.map_map]
        have hmap := congrArg (List.map (Option.map Names.className)) hnames
        rw [List.map_map, List.map_map] at hmap
        exact hmap
      rw [hclasses]
      exact hdifferent.map (Option.some_injective String)

/-- An aggregate under a policy that asks for a prefix, an event of another aggregate, and a walk over
    four events with keys that end alike. -/
theorem names_unprefixed_merging :
    (⟨.aggregate, ⟨".ts", "roots", "Root", true⟩⟩ : Naming).fileName "userAccount" (some "shop") =
      .ok "user-account-root.ts" ∧
    plainGenerator.event.prefixAggregateName = false ∧
    (plainGenerator.generate countingRenderer memorySink mergingModel 0
      []).outcome.toOption.isSome = true ∧
    (((plainGenerator.generate countingRenderer memorySink mergingModel 0 []).model.entities.filter
      (·.kind == .event)).map fun x => x.names.map Names.className).Nodup := by
  obtain ⟨hfile, _, hwalk⟩ := names_unprefixed
  have hok : (plainGenerator.generate countingRenderer memorySink mergingModel 0
      []).outcome.toOption.isSome = true := by decide +kernel
  refine ⟨(hfile _ (Or.inl rfl) _ _).trans (by decide +kernel), rfl, hok, ?_⟩
  cases hgen : (plainGenerator.generate countingRenderer memorySink mergingModel 0 []).outcome with
  | error problem =>
      rw [hgen] at hok
      cases hok
  | ok gen =>
      have hm : Model.ofDocument mergingDocument none = .ok mergingModel := rfl
      exact (hwalk plainGenerator countingRenderer memorySink hm 0 [] gen hgen .event rfl).2

end DomainGen
