import DomainGen.Proofs.Data.Keyed
import DomainGen.Proofs.Data.Overriding
import DomainGen.Proofs.Model.Fresh

/-!
# Models mirror their documents

A document can be written again from the model that it was read as, but for two things: a section
that is nothing at all becomes an empty mapping, and the collections stand behind the other fields of
their aggregate, as the section of aggregates stands behind the other entries of the document.

An aggregate and an entity are named by the text of their key, and keys that are different can have
one text, as the number `1` and the text `1` have. Of several declarations with one name the last one
is read, at the place of the first, and the others are dropped.

* `Model.toDocument` : writing a model;
* `Data.arranged` : a document with its sections filled and moved behind the other entries;
* `toDocument_model` : **writing what was read gives the document again**, arranged;
* `Model.Mirrors` : all that a model has in common with its document;
* `ofDocument_mirrors` : **reading fails at the first offence of a document, or gives its mirror**;
* `Data.HasDistinctNames` : no two keys of one section have one text;
* `Model.Keeps` : no declaration is dropped;
* `hasDistinctNames_of_texts` : keys that are texts are distinct names;
* `ofDocument_keeps_iff` : **what a document with any keys is read as, and that nothing of it is
  dropped exactly if its names are distinct**.
-/

namespace DomainGen

/-! ## 1. Writing -/

/-- The entry of an entity in its collection. -/
def Entity.toEntry (e : Entity) : Data × Data := (.text e.name, .mapping e.fields)

/-- The body of an aggregate: its fields and its declared collections. -/
def Aggregate.toBody (a : Aggregate) : Entries :=
  a.fields ++ a.collections.map fun c =>
    (.text c.1.collection, .mapping (c.2.map Entity.toEntry))

/-- The entry of an aggregate in the section of aggregates. -/
def Aggregate.toEntry (a : Aggregate) : Data × Data := (.text a.name, .mapping a.toBody)

/-- The document of a model. -/
def Model.toDocument (m : Model) : Data :=
  .mapping (m.extra ++ [(.text aggregatesKey, .mapping (m.aggregates.map Aggregate.toEntry))])

/-! ## 2. Arranging -/

namespace Data

/-- A section as a mapping: nothing at all becomes an empty one. -/
def filled (x : Data) : Data := .mapping x.within

/-- A section with each of its values changed. -/
def mapValues (f : Data → Data) (x : Data) : Data := .mapping (x.within.map fun e => (e.1, f e.2))

/-- A collection with every entity filled. -/
def arrangedCollection : Data → Data := mapValues filled

/-- The body of an aggregate with its collections arranged and behind the other fields. -/
def arrangedAggregate (x : Data) : Data :=
  .mapping (x.within.movedBack collectionKeys arrangedCollection)

/-- A section of aggregates with every aggregate arranged. -/
def arrangedAggregates : Data → Data := mapValues arrangedAggregate

/-- A document with its aggregates arranged and behind the other entries. -/
def arranged (document : Data) : Data :=
  .mapping (document.within.movedBack [aggregatesKey] arrangedAggregates)

end Data

/-! ## 3. Documents whose names are texts -/

/-- All keys are texts. -/
def AreTexts (keys : List Data) : Prop := ∀ key ∈ keys, ∃ s, key = .text s

theorem text_plain {key : Data} (h : ∃ s, key = .text s) : .text key.plain = key := by
  obtain ⟨s, rfl⟩ := h
  rfl

/-- Different keys that are texts have different texts. -/
theorem nodup_plain {es : Entries} (htexts : AreTexts (es.map (·.1))) (hes : (es.map (·.1)).Nodup) :
    (es.map (·.1.plain)).Nodup := by
  have hback : (es.map (·.1.plain)).map Data.text = es.map (·.1) := by
    rw [List.map_map]
    exact List.map_congr_left fun e he => text_plain (htexts e.1 (List.mem_map_of_mem he))
  refine List.Nodup.of_map Data.text ?_
  rw [hback]
  exact hes

theorem areKeyed_within {x : Data} (h : x.isKeyed = true) : Data.areKeyed x.within = true := by
  cases x with
  | mapping es => exact h
  | _ => rfl

theorem isKeyed_get? {x c : Data} {key : String} (h : x.isKeyed = true)
    (hc : Entries.get? x.within key = some c) : c.isKeyed = true :=
  Entries.isKeyed_of_lookup? (areKeyed_within h) hc

theorem nodup_within {x : Data} (h : x.isKeyed = true) : (x.within.map (·.1)).Nodup :=
  Entries.nodup_of_areKeyed (areKeyed_within h)

/-! ## 4. Writing what was read -/

theorem toEntry_entityOf {kind : Kind} {owner : String} {e : Data × Data}
    (h : ∃ s, e.1 = .text s) : (entityOf kind owner e).toEntry = (e.1, e.2.filled) := by
  show (Data.text e.1.plain, e.2.filled) = _
  rw [text_plain h]

/-- Entities whose keys are different texts are written as their collection was. -/
theorem map_toEntry_entitiesIn (kind : Kind) (owner : String) {x : Data} (hx : x.isKeyed = true)
    (htexts : AreTexts (x.within.map (·.1))) :
    Data.mapping ((entitiesIn kind owner x).map Entity.toEntry) = x.arrangedCollection := by
  have hnodup : ((x.within.map (entityOf kind owner)).map Entity.name).Nodup := by
    rw [List.map_map]
    exact nodup_plain htexts (nodup_within hx)
  unfold entitiesIn Data.arrangedCollection Data.mapValues
  rw [collected_eq_self hnodup, List.map_map]
  congr 1
  exact List.map_congr_left fun e he => toEntry_entityOf (htexts e.1 (List.mem_map_of_mem he))

theorem isCollectionKey_eq (x : Data) : isCollectionKey x = x.isAmong collectionKeys := by
  cases x <;> rfl

/-- What is under a key of a section is what is in the section there. -/
theorem under_of_get? {x c : Data} {key : String} (h : Entries.get? x.within key = some c) :
    x.under key = c.within := by
  unfold Data.under
  rw [h]
  rfl

/-- An aggregate is written as its body was, with the collections behind the other fields. -/
theorem toEntry_aggregateOf {e : Data × Data} (he : e.2.isKeyed = true) (hkey : ∃ s, e.1 = .text s)
    (htexts : ∀ kind : Kind, AreTexts ((e.2.under kind.collection).map (·.1))) :
    (aggregateOf e).toEntry = (e.1, e.2.arrangedAggregate) := by
  have hfields : (aggregateOf e).fields = e.2.within.besides collectionKeys :=
    List.filter_congr fun x _ => congrArg (!·) (isCollectionKey_eq x.1)
  have hcollections : ((aggregateOf e).collections.map fun c =>
      (Data.text c.1.collection, Data.mapping (c.2.map Entity.toEntry))) =
      collectionKeys.filterMap fun s =>
        (Entries.get? e.2.within s).map fun x => (Data.text s, x.arrangedCollection) := by
    unfold collectionKeys
    rw [List.filterMap_map]
    show (List.map _ (List.filterMap _ _)) = _
    rw [List.map_filterMap]
    refine List.filterMap_congr fun kind _ => ?_
    show ((Entries.get? e.2.within kind.collection).map _).map _ =
      (Entries.get? e.2.within kind.collection).map _
    cases hx : Entries.get? e.2.within kind.collection with
    | none => rfl
    | some x =>
        have hnames := htexts kind
        rw [under_of_get? hx] at hnames
        exact congrArg (fun c => some (Data.text kind.collection, c))
          (map_toEntry_entitiesIn kind _ (isKeyed_get? he hx) hnames)
  show (Data.text e.1.plain, Data.mapping ((aggregateOf e).fields ++ _)) = _
  rw [text_plain hkey, hfields, hcollections]
  rfl

/-- The keys of a document that name aggregates and entities, by the part they are in. -/
theorem forall_namingKeys {P : Data → Prop} {document : Data} :
    (∀ key ∈ document.namingKeys, P key) ↔ ∀ e ∈ document.under aggregatesKey,
      P e.1 ∧ ∀ kind : Kind, ∀ key ∈ (e.2.under kind.collection).map (·.1), P key := by
  unfold Data.namingKeys
  rw [List.forall_mem_flatMap]
  refine forall₂_congr fun e _ => ?_
  rw [List.forall_mem_cons, List.forall_mem_flatMap]
  exact and_congr_right fun _ => ⟨fun h kind => h kind (Kind.mem_all kind), fun h kind _ => h kind⟩

theorem without_eq (es : Entries) (s : String) : es.without (.text s) = es.besides [s] := by
  refine List.filter_congr fun e _ => congrArg (!·) ?_
  rw [Bool.eq_iff_iff, Data.sameKey_text_iff]
  cases e.1 with
  | text t => rw [Data.isAmong_iff, List.mem_singleton, Data.text.injEq]
  | _ => exact ⟨fun h => (by cases h), fun h => (by cases h)⟩

/-- The section of aggregates of a document that is a model. -/
theorem exists_aggregates {document : Data} (h : document.isModel = true) : ∃ es x,
    document = .mapping es ∧ Entries.get? es aggregatesKey = some x ∧ x.isAggregates = true := by
  cases document with
  | mapping es =>
      have hany : (Entries.get? es aggregatesKey).any Data.isAggregates = true := h
      cases hx : Entries.get? es aggregatesKey with
      | none =>
          rw [hx] at hany
          cases hany
      | some x =>
          rw [hx] at hany
          exact ⟨es, x, rfl, hx, hany⟩
  | _ => cases h

theorem areKeyed_under {x : Data} {key : String} (h : x.isKeyed = true) :
    Data.areKeyed (x.under key) = true := by
  cases hc : Entries.get? x.within key with
  | none =>
      unfold Data.under
      rw [hc]
      rfl
  | some c =>
      rw [under_of_get? hc]
      exact areKeyed_within (isKeyed_get? h hc)

/-- Aggregates whose keys are texts have different names. -/
theorem nodup_names {document : Data} (hkeyed : document.isKeyed = true)
    (htexts : AreTexts document.namingKeys) :
    ((document.under aggregatesKey).map (·.1.plain)).Nodup := by
  refine nodup_plain (fun key hkey => ?_) (Entries.nodup_of_areKeyed (areKeyed_under hkeyed))
  obtain ⟨e, he, rfl⟩ := List.mem_map.mp hkey
  exact (forall_namingKeys.mp htexts e he).1

/-- **Writing the model that a document was read as gives the document again**, arranged. -/
theorem toDocument_model {document : Data} (source : Option String)
    (hmodel : document.isModel = true) (hkeyed : document.isKeyed = true)
    (htexts : AreTexts document.namingKeys) :
    (document.model source).toDocument = document.arranged := by
  obtain ⟨es, x, rfl, hx, -⟩ := exists_aggregates hmodel
  have hunder : (Data.mapping es).under aggregatesKey = x.within := under_of_get? hx
  have hkeys := forall_namingKeys.mp htexts
  rw [hunder] at hkeys
  have hkeyed' : x.isKeyed = true := isKeyed_get? hkeyed hx
  have hnames : ((Data.mapping es).under aggregatesKey).map (·.1.plain) |>.Nodup :=
    nodup_names hkeyed htexts
  have hentries : (x.within.map aggregateOf).map Aggregate.toEntry =
      x.within.map fun e => (e.1, e.2.arrangedAggregate) := by
    rw [List.map_map]
    exact List.map_congr_left fun e he => toEntry_aggregateOf
      (Entries.isKeyed_of_mem (areKeyed_within hkeyed') he) (hkeys e he).1 (hkeys e he).2
  unfold Model.toDocument Data.arranged Entries.movedBack
  rw [aggregates_model source hnames, hunder, hentries]
  show Data.mapping (Entries.without es (.text aggregatesKey) ++ _) =
    Data.mapping (Entries.besides es [aggregatesKey] ++
      [aggregatesKey].filterMap fun s => (Entries.get? es s).map _)
  rw [without_eq, List.filterMap_cons, hx]
  rfl

/-! ## 5. Everything a model has in common with its document -/

/-- A model says what its document says, and nothing else. -/
structure Model.Mirrors (m : Model) (document : Data) : Prop where
  /-- The document can be written again, with nothing read as an empty mapping and the sections moved
      behind the other entries. -/
  written : m.toDocument = document.arranged
  /-- Nothing else of the document was changed. -/
  document_perm : document.arranged.within.Perm
    (document.within.changedAt [aggregatesKey] Data.arrangedAggregates)
  /-- Nothing else of an aggregate was changed. -/
  aggregate_perm : ∀ e ∈ document.under aggregatesKey, e.2.arrangedAggregate.within.Perm
    (e.2.within.changedAt collectionKeys Data.arrangedCollection)
  /-- No other field has the key of a collection. -/
  apart : ∀ a ∈ m.aggregates, ∀ x ∈ a.fields, isCollectionKey x.1 = false
  /-- Every entity knows what it is and whose it is, and its aggregate is found. -/
  known : ∀ a ∈ m.aggregates, ∀ c ∈ a.collections, ∀ e ∈ c.2,
    e.kind = c.1 ∧ e.owner = a.name ∧ m.ownerOf e = .ok a
  /-- All entities are counted. -/
  counted : ∀ kind : Kind, m.count (some kind) =
    ((document.under aggregatesKey).map fun e => (e.2.under kind.collection).length).sum
  /-- So are those of all kinds. -/
  counted_all : m.count none = (Kind.all.map fun kind => m.count (some kind)).sum

/-- All entities of one kind are counted. -/
theorem count_model {document : Data} (source : Option String) (hkeyed : document.isKeyed = true)
    (htexts : AreTexts document.namingKeys) (kind : Kind) :
    (document.model source).count (some kind) =
      ((document.under aggregatesKey).map fun e => (e.2.under kind.collection).length).sum := by
  unfold Model.count
  rw [aggregates_model source (nodup_names hkeyed htexts), List.length_flatMap, List.map_map]
  refine congrArg List.sum (List.map_congr_left fun e he => ?_)
  have hbody : e.2.isKeyed = true := Entries.isKeyed_of_mem (areKeyed_under hkeyed) he
  have hnames := nodup_plain ((forall_namingKeys.mp htexts e he).2 kind)
    (Entries.nodup_of_areKeyed (areKeyed_under hbody))
  show ((aggregateOf e).entitiesOf kind).length = _
  rw [entitiesOf_aggregateOf_eq hnames, List.length_map]

/-- The entities of all kinds are those of each kind. -/
theorem count_none_eq_sum (m : Model) :
    m.count none = (Kind.all.map fun kind => m.count (some kind)).sum := by
  unfold Model.count Aggregate.entities Kind.all
  simp only [List.length_flatMap, List.map_cons, List.map_nil, List.sum_cons, List.sum_nil,
    List.sum_map_add, Nat.add_zero]

/-- **The model that a document with proper keys is read as mirrors it.** -/
theorem mirrors_model {document : Data} {source : Option String}
    (h : Model.ofDocument document source = .ok (document.model source))
    (hmodel : document.isModel = true) (hkeyed : document.isKeyed = true)
    (htexts : AreTexts document.namingKeys) : (document.model source).Mirrors document where
  written := toDocument_model source hmodel hkeyed htexts
  document_perm := Entries.perm_movedBack (nodup_within hkeyed) (List.nodup_singleton _)
  aggregate_perm e he := Entries.perm_movedBack
    (nodup_within (Entries.isKeyed_of_mem (areKeyed_under hkeyed) he)) (by decide)
  apart := fields_ofDocument h
  known a ha c hc e he := by
    have hfresh := fresh_ofDocument h
    have hentity := (hfresh.aggregates a ha).entities c hc e he
    exact ⟨hentity.kind_eq, hentity.owner_eq, hfresh.ownerOf ha hentity.owner_eq⟩
  counted := count_model source hkeyed htexts
  counted_all := count_none_eq_sum _

/-- Reading follows the grammar: a model is read, anything else is refused with the first thing that
    is wrong with its form. -/
def Data.ReadsByForm (document : Data) (source : Option String) : Prop :=
  ((∃ m, Model.ofDocument document source = .ok m) ↔ document.isModel = true) ∧
    ∀ e, Model.ofDocument document source = .error e →
      ∃ problem, e = .model problem ∧ document.problems.head? = some problem

/-- **Reading follows the grammar exactly if the first offence is not a name without a text.** -/
theorem readsByForm_iff (document : Data) (source : Option String) :
    document.ReadsByForm source ↔ document.offences.head? ≠ some .nameless := by
  unfold Data.ReadsByForm
  rw [ofDocument_eq, ← problems_eq_nil_iff]
  unfold Data.problems
  cases document.offences with
  | nil =>
      refine iff_of_true ⟨iff_of_true ⟨_, rfl⟩ rfl, fun e he => ?_⟩ (Option.some_ne_none _).symm
      cases he
  | cons o rest =>
      cases o with
      | nameless =>
          refine iff_of_false (fun h => ?_) (not_not_intro rfl)
          obtain ⟨problem, heq, -⟩ := h.2 (.fault .badValue) rfl
          cases heq
      | form problem =>
          refine iff_of_true ⟨iff_of_false ?_ (List.cons_ne_nil _ _), fun e he => ?_⟩ ?_
          · rintro ⟨m, hm⟩
            cases hm
          · exact ⟨problem, (Except.error.inj he).symm, rfl⟩
          · intro h
            cases h

/-- **Reading a document fails at its first offence, or gives a model that mirrors it.** Without names
    that have no text, what is refused is what is not a model. -/
theorem ofDocument_mirrors (document : Data) (source : Option String) :
    (∀ e, Model.ofDocument document source = .error e ↔
        ∃ o, document.offences.head? = some o ∧ o.failure = e) ∧
      ((∃ m, Model.ofDocument document source = .ok m) ↔
        document.isModel = true ∧ ∀ key ∈ document.namingKeys, key.hasText = true) ∧
      (document.ReadsByForm source ↔ document.offences.head? ≠ some .nameless) ∧
      (.nameless ∈ document.offences ↔ ∃ key ∈ document.namingKeys, key.hasText = false) ∧
      ∀ m, Model.ofDocument document source = .ok m → document.isKeyed = true →
        AreTexts document.namingKeys → m.source = source ∧ m.Mirrors document := by
  have haccepted : (∃ m, Model.ofDocument document source = .ok m) ↔ document.offences = [] := by
    constructor
    · rintro ⟨m, hm⟩
      exact (ofDocument_ok_iff.mp hm).1
    · intro hnone
      exact ⟨_, ofDocument_ok_iff.mpr ⟨hnone, rfl⟩⟩
  refine ⟨fun e => ?_, haccepted.trans (offences_eq_nil_iff document),
    readsByForm_iff document source, ?_, fun m hm hkeyed htexts => ?_⟩
  · rw [ofDocument_eq]
    exact firstOr_eq_error
  · rw [← not_iff_not, nameless_not_mem_iff]
    simp only [not_exists, not_and, Bool.not_eq_false]
  · obtain ⟨hnone, rfl⟩ := ofDocument_ok_iff.mp hm
    exact ⟨rfl, mirrors_model hm ((offences_eq_nil_iff document).mp hnone).1 hkeyed htexts⟩

/-- A document with an aggregate whose collections stand between its other fields; one of them is
    declared and empty. -/
def shopDocument : Data :=
  .mapping [
    (.text "aggregates", .mapping [
      (.text "order", .mapping [
        (.text "events", .mapping [(.text "placed", .null), (.text "paid", .mapping [])]),
        (.text "table", .text "orders"),
        (.text "faults", .null)]),
      (.text "invoice", .null)]),
    (.text "title", .text "Shop")]

theorem ofDocument_mirrors_shop : shopDocument.isKeyed = true ∧ AreTexts shopDocument.namingKeys ∧
    ∃ m, Model.ofDocument shopDocument none = .ok m ∧ m.Mirrors shopDocument := by
  have hkeyed : shopDocument.isKeyed = true := by decide
  have hnames : shopDocument.namingKeys = ["order", "placed", "paid", "invoice"].map .text := rfl
  have htexts : AreTexts shopDocument.namingKeys := by
    intro key hkey
    obtain ⟨s, -, rfl⟩ := List.mem_map.mp (hnames ▸ hkey)
    exact ⟨s, rfl⟩
  obtain ⟨-, haccepted, -, -, hmirrors⟩ := ofDocument_mirrors shopDocument none
  obtain ⟨m, hm⟩ := haccepted.mpr ⟨by decide, by decide⟩
  exact ⟨hkeyed, htexts, m, hm, (hmirrors m hm hkeyed htexts).2⟩

/-- A document that names an aggregate by a number of more than 4300 digits. -/
def numberedDocument : Data :=
  .mapping [(.text "aggregates", .mapping [(.int (10 ^ 4300), .null)])]

/-- The document is a model, and it is refused, though not with an error of the model. -/
theorem numberedDocument_refused : numberedDocument.isModel = true ∧
    Model.ofDocument numberedDocument none = .error (.fault .badValue) ∧
    ¬ numberedDocument.ReadsByForm none := by
  have hoffences : numberedDocument.offences = [.nameless] := by decide +kernel
  refine ⟨by decide, ?_, ?_⟩
  · rw [ofDocument_eq, hoffences]
    rfl
  · rw [readsByForm_iff, hoffences]
    exact not_not_intro rfl

/-! ## 6. Keys with one text -/

/-- The name that an entry of a section gives: the text of its key. -/
def nameGiven (e : Data × Data) : String := e.1.plain

/-- Have no two keys that name aggregates, or entities of one collection, one text? -/
def Data.HasDistinctNames (document : Data) : Prop :=
  ((document.under aggregatesKey).map nameGiven).Nodup ∧
    ∀ e ∈ document.under aggregatesKey, ∀ kind : Kind,
      ((e.2.under kind.collection).map nameGiven).Nodup

/-- A model has one aggregate for every entry of the section of aggregates, and the aggregate has one
    entity for every entry of each collection. -/
def Model.Keeps (m : Model) (document : Data) : Prop :=
  List.Forall₂ (fun a e => ∀ kind : Kind,
      (a.entitiesOf kind).length = (e.2.under kind.collection).length)
    m.aggregates (document.under aggregatesKey)

/-- Proper keys that are texts are distinct names. -/
theorem hasDistinctNames_of_texts {document : Data} (hkeyed : document.isKeyed = true)
    (htexts : AreTexts document.namingKeys) : document.HasDistinctNames :=
  ⟨nodup_names hkeyed htexts, fun e he kind =>
    nodup_plain ((forall_namingKeys.mp htexts e he).2 kind)
      (Entries.nodup_of_areKeyed
        (areKeyed_under (Entries.isKeyed_of_mem (areKeyed_under hkeyed) he)))⟩

/-! ## 7. What is read of them -/

theorem length_aggregates_iff (document : Data) (source : Option String) :
    (document.model source).aggregates.length = (document.under aggregatesKey).length ↔
      ((document.under aggregatesKey).map nameGiven).Nodup := length_collected_map_iff

theorem length_entitiesOf_iff (e : Data × Data) (kind : Kind) :
    ((aggregateOf e).entitiesOf kind).length = (e.2.under kind.collection).length ↔
      ((e.2.under kind.collection).map nameGiven).Nodup := by
  rw [entitiesOf_aggregateOf]
  exact length_collected_map_iff

/-- **Nothing is dropped exactly if the names are distinct.** -/
theorem keeps_model_iff (document : Data) (source : Option String) :
    (document.model source).Keeps document ↔ document.HasDistinctNames := by
  have hkept (h : ((document.under aggregatesKey).map nameGiven).Nodup) :
      (document.model source).Keeps document ↔ ∀ e ∈ document.under aggregatesKey, ∀ kind : Kind,
        ((e.2.under kind.collection).map nameGiven).Nodup := by
    unfold Model.Keeps
    rw [aggregates_model source h, List.forall₂_map_left_iff, List.forall₂_same]
    exact forall₂_congr fun e _ => forall_congr' fun kind => length_entitiesOf_iff e kind
  constructor
  · intro h
    have hnodup := (length_aggregates_iff document source).mp h.length_eq
    exact ⟨hnodup, (hkept hnodup).mp h⟩
  · intro h
    exact (hkept h.1).mpr h.2

/-- **Of several declarations with one name the last one is read, at the place of the first.** Nothing
    of a document is dropped exactly if its names are distinct. -/
theorem ofDocument_keeps_iff {document : Data} {source : Option String} {m : Model}
    (h : Model.ofDocument document source = .ok m) :
    m.aggregates.map (·.name) = ((document.under aggregatesKey).map nameGiven).eraseDups ∧
      (∀ a, a ∈ m.aggregates ↔
        ∃ e, IsLast nameGiven (document.under aggregatesKey) e ∧ aggregateOf e = a) ∧
      (∀ (e : Data × Data) (kind : Kind),
        ((aggregateOf e).entitiesOf kind).map (·.name) =
            ((e.2.under kind.collection).map nameGiven).eraseDups ∧
          ∀ x, x ∈ (aggregateOf e).entitiesOf kind ↔
            ∃ y, IsLast nameGiven (e.2.under kind.collection) y ∧
              entityOf kind (aggregateOf e).name y = x) ∧
      (m.Keeps document ↔ document.HasDistinctNames) := by
  obtain ⟨-, rfl⟩ := ofDocument_ok_iff.mp h
  refine ⟨map_collected_map, fun a => mem_collected_map, fun e kind => ?_,
    keeps_model_iff document source⟩
  rw [entitiesOf_aggregateOf]
  exact ⟨map_collected_map, fun x => mem_collected_map⟩

/-- A document that names one aggregate by a number and another one by its text. -/
def twinDocument : Data :=
  .mapping [
    (.text "aggregates", .mapping [
      (.int 1, .mapping [(.text "events", .mapping [(.text "placed", .null)])]),
      (.text "1", .mapping [])])]

theorem read_twinDocument :
    Model.ofDocument twinDocument none = .ok (twinDocument.model none) :=
  ofDocument_ok_iff.mpr ⟨by decide +kernel, rfl⟩

theorem ofDocument_keeps_iff_twins :
    Model.ofDocument twinDocument none = .ok (twinDocument.model none) ∧
      (twinDocument.model none).aggregates.map (·.name) = ["1"] ∧
      ((twinDocument.model none).Keeps twinDocument ↔ twinDocument.HasDistinctNames) := by
  obtain ⟨hnames, -, -, hkeeps⟩ := ofDocument_keeps_iff read_twinDocument
  exact ⟨read_twinDocument, hnames.trans (by decide), hkeeps⟩

/-- Two aggregates are declared under different keys. One of them is read, and the event of the other is
    dropped. -/
theorem twinDocument_dropped : twinDocument.isKeyed = true ∧
    (twinDocument.under aggregatesKey).length = 2 ∧
    ∃ m, Model.ofDocument twinDocument none = .ok m ∧
      m.aggregates.length = 1 ∧ m.count none = 0 ∧ ¬ m.Keeps twinDocument := by
  refine ⟨by decide +kernel, rfl, _, read_twinDocument, rfl, rfl, fun h => ?_⟩
  cases h.length_eq

end DomainGen
