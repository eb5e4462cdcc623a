import DomainGen.Document
import DomainGen.Proofs.Except
import DomainGen.Proofs.Model.ByKey

/-!
# The grammar of models

A document is a model if its parts are sections where they have to be: mappings, or nothing at all.
What a document offends against can be listed in its order, and what it is read as can be written down
without reading.

A text that cannot be read, or is not the text of a model, is refused for what it is: with an error of
the loading or of the model, or with a fault, and with no other failure.

* `Data.isModel` : the grammar;
* `Data.offences` : everything that is wrong with a document, in its order;
* `Data.model` : the model that a document is read as, if nothing is wrong with it;
* `ofDocument_eq` : **reading stops at the first offence, or else gives this model**;
* `offences_eq_nil_iff`, `problems_eq_nil_iff` : the grammar says when there are none;
* `Failure.ofDocument` : the failures of documents;
* `readDocument_failsAs`, `ofDocument_failsAs` : **a document is refused with one of them**.
-/

namespace DomainGen

/-! ## 1. Offences -/

/-- Something that is wrong with a document. -/
inductive Offence where
  /-- A key that is a name has no text. -/
  | nameless
  /-- A part has not the form that models have. -/
  | form (problem : ModelError)
  deriving DecidableEq, Repr

namespace Offence

/-- How reading fails at an offence. -/
def failure : Offence → Failure
  | nameless => .fault .badValue
  | form problem => .model problem

/-- The error of the model that an offence is. -/
def problem? : Offence → Option ModelError
  | nameless => none
  | form problem => some problem

end Offence

section Checks

variable {α β : Type} {os ps : List Offence} {x y : α}

/-- The result of a check: the failure at the first of some offences, or else a value. -/
def firstOr : List Offence → α → Except Failure α
  | [], x => .ok x
  | o :: _, _ => .error o.failure

theorem firstOr_eq_error {e : Failure} :
    firstOr os x = .error e ↔ ∃ o, os.head? = some o ∧ o.failure = e := by
  cases os with
  | nil =>
      constructor
      · intro h
        cases h
      · rintro ⟨o, ho, _⟩
        cases ho
  | cons o os =>
      constructor
      · intro h
        exact ⟨o, rfl, Except.error.inj h⟩
      · rintro ⟨_, ho, he⟩
        cases ho
        exact congrArg Except.error he

theorem firstOr_eq_ok : firstOr os x = .ok y ↔ os = [] ∧ x = y := by
  cases os with
  | nil => exact ⟨fun h => ⟨rfl, Except.ok.inj h⟩, fun h => congrArg Except.ok h.2⟩
  | cons o os =>
      constructor
      · intro h
        cases h
      · rintro ⟨h, _⟩
        cases h

/-- Checks one after the other find what each of them finds. -/
theorem firstOr_bind {z : β} {f : α → Except Failure β} (h : f x = firstOr ps z) :
    firstOr os x >>= f = firstOr (os ++ ps) z := by
  cases os with
  | nil => exact h
  | cons o os => rfl

/-- What is made of the value of a check. -/
theorem firstOr_bind_pure (os : List Offence) (x : α) (g : α → β) :
    (firstOr os x >>= fun a => pure (g a)) = firstOr os (g x) := by
  cases os <;> rfl

end Checks

/-! ## 2. Sections -/

namespace Data

/-- Is the value a mapping, or nothing at all? -/
def isSection : Data → Bool
  | .null => true
  | .mapping _ => true
  | _ => false

/-- The entries of a section. -/
def within : Data → Entries
  | .mapping es => es
  | _ => []

/-- The entries of the section that a section has under a key. -/
def under (x : Data) (key : String) : Entries :=
  (Entries.get? x.within key).elim [] within

/-! ## 3. The grammar -/

/-- Is the value a collection of entities? -/
def isCollection (x : Data) : Bool :=
  x.isSection && x.within.all (·.2.isSection)

/-- Is the value the body of an aggregate? -/
def isAggregate (x : Data) : Bool :=
  x.isSection && Kind.all.all fun kind => (Entries.get? x.within kind.collection).all isCollection

/-- Is the value a section of aggregates? -/
def isAggregates (x : Data) : Bool :=
  x.isSection && x.within.all (·.2.isAggregate)

/-- Is the document a model? -/
def isModel : Data → Bool
  | .mapping es => (Entries.get? es aggregatesKey).any isAggregates
  | _ => false

/-- The keys that name aggregates and entities, in the order in which a document is read. -/
def namingKeys (document : Data) : List Data :=
  (document.under aggregatesKey).flatMap fun a =>
    a.1 :: Kind.all.flatMap fun kind => (a.2.under kind.collection).map (·.1)

end Data

/-! ## 4. Everything that is wrong -/

/-- What is wrong with a key that is used as a name. -/
def keyOffences (key : Data) : List Offence :=
  if key.hasText then [] else [.nameless]

/-- What is wrong with a value that has to be a section. -/
def sectionOffences (problem : (kindName : String) → ModelError) (x : Data) : List Offence :=
  if x.isSection then [] else [.form (problem x.kindName)]

/-- What is wrong with an entry of a collection. -/
def entityOffences (kind : Kind) (owner : String) (e : Data × Data) : List Offence :=
  keyOffences e.1 ++ sectionOffences (.itemNotMapping (.entity kind owner e.1.plain)) e.2

/-- What is wrong with a collection. -/
def collectionOffences (owner : String) (kind : Kind) (x : Data) : List Offence :=
  sectionOffences (.collectionNotMapping owner kind) x ++
    x.within.flatMap (entityOffences kind owner)

/-- What is wrong with the collections of an aggregate, of the given kinds. -/
def collectionsOffences (owner : String) (body : Entries) (kinds : List Kind) : List Offence :=
  kinds.flatMap fun kind =>
    (Entries.get? body kind.collection).elim [] (collectionOffences owner kind)

/-- What is wrong with an entry of the section of aggregates. -/
def aggregateOffences (e : Data × Data) : List Offence :=
  keyOffences e.1 ++ (sectionOffences (.itemNotMapping (.aggregate e.1.plain)) e.2 ++
    collectionsOffences e.1.plain e.2.within Kind.all)

/-- What is wrong with a section of aggregates. -/
def aggregatesOffences (x : Data) : List Offence :=
  sectionOffences .aggregatesNotMapping x ++ x.within.flatMap aggregateOffences

/-- What is wrong with a document. -/
def Data.offences : Data → List Offence
  | .mapping es => (Entries.get? es aggregatesKey).elim [.form .noAggregates] aggregatesOffences
  | _ => [.form .notMapping]

/-- What is wrong with the form of a document. -/
def Data.problems (document : Data) : List ModelError :=
  document.offences.filterMap Offence.problem?

/-! ## 5. What is read -/

/-- The entity that an entry of a collection is read as. -/
def entityOf (kind : Kind) (owner : String) (e : Data × Data) : Entity :=
  ⟨kind, e.1.plain, owner, e.2.within, none⟩

/-- The entities that a collection is read as. -/
def entitiesIn (kind : Kind) (owner : String) (x : Data) : List Entity :=
  collected Entity.name (x.within.map (entityOf kind owner))

/-- The collections that an aggregate is read with, of the given kinds. -/
def collectionsIn (owner : String) (body : Entries) (kinds : List Kind) :
    List (Kind × List Entity) :=
  kinds.filterMap fun kind =>
    (Entries.get? body kind.collection).map fun x => (kind, entitiesIn kind owner x)

/-- The aggregate that an entry of the section of aggregates is read as. -/
def aggregateOf (e : Data × Data) : Aggregate where
  name := e.1.plain
  fields := e.2.within.filter fun x => !isCollectionKey x.1
  collections := collectionsIn e.1.plain e.2.within Kind.all
  names := none

/-- The model that a document is read as. -/
def Data.model (document : Data) (source : Option String) : Model where
  aggregates := collected Aggregate.name ((document.under aggregatesKey).map aggregateOf)
  extra := Entries.without document.within (.text aggregatesKey)
  source := source

theorem lookup_collectionsIn (owner : String) (body : Entries) (kind : Kind) (kinds : List Kind) :
    (collectionsIn owner body kinds).lookup kind = if kind ∈ kinds
      then (Entries.get? body kind.collection).map (entitiesIn kind owner) else none := by
  unfold collectionsIn
  induction kinds with
  | nil => rfl
  | cons k rest ih =>
      rw [List.filterMap_cons]
      by_cases hk : kind = k
      · subst hk
        rw [if_pos List.mem_cons_self]
        cases hx : Entries.get? body kind.collection with
        | none =>
            rw [hx, Option.map_none, ite_self] at ih
            exact ih
        | some x => exact List.lookup_cons_self
      · have hmem : kind ∈ k :: rest ↔ kind ∈ rest := List.mem_cons.trans (or_iff_right hk)
        rw [if_congr hmem rfl rfl]
        cases Entries.get? body k.collection with
        | none => exact ih
        | some x =>
            show List.lookup kind ((k, entitiesIn k owner x) :: _) = _
            rw [List.lookup_cons, beq_eq_false_iff_ne.mpr hk]
            exact ih

/-- The entities of one kind of an aggregate. -/
theorem entitiesOf_aggregateOf (e : Data × Data) (kind : Kind) :
    (aggregateOf e).entitiesOf kind = collected Entity.name
      ((e.2.under kind.collection).map (entityOf kind e.1.plain)) := by
  unfold Aggregate.entitiesOf Data.under
  show ((collectionsIn e.1.plain e.2.within Kind.all).lookup kind).getD [] = _
  rw [lookup_collectionsIn, if_pos (Kind.mem_all kind)]
  cases Entries.get? e.2.within kind.collection <;> rfl

/-- Aggregates with different names are all read. -/
theorem aggregates_model {document : Data} (source : Option String)
    (h : ((document.under aggregatesKey).map (·.1.plain)).Nodup) :
    (document.model source).aggregates = (document.under aggregatesKey).map aggregateOf := by
  refine collected_eq_self ?_
  rw [List.map_map]
  exact h

/-- Entities of one kind with different names are all read. -/
theorem entitiesOf_aggregateOf_eq {e : Data × Data} {kind : Kind}
    (h : ((e.2.under kind.collection).map (·.1.plain)).Nodup) :
    (aggregateOf e).entitiesOf kind =
      (e.2.under kind.collection).map (entityOf kind e.1.plain) := by
  rw [entitiesOf_aggregateOf]
  refine collected_eq_self ?_
  rw [List.map_map]
  exact h

/-! ## 6. Reading -/

theorem mappingOr_eq (problem : String → ModelError) (x : Data) :
    mappingOr problem x = firstOr (sectionOffences problem x) x.within := by
  cases x <;> rfl

theorem asText_eq (key : Data) :
    key.asText.mapError Failure.fault = firstOr (keyOffences key) key.plain := by
  unfold Data.asText keyOffences
  by_cases h : key.hasText = true
  · rw [if_pos h, if_pos h]
    rfl
  · rw [if_neg h, if_neg h]
    rfl

theorem readEntities_eq (kind : Kind) (owner : String) (es : Entries) (read : List Entity) :
    readEntities kind owner es read = firstOr (es.flatMap (entityOffences kind owner))
      ((es.map (entityOf kind owner)).foldl (fun read e => putByKey Entity.name e read) read) := by
  induction es generalizing read with
  | nil => rfl
  | cons e rest ih =>
      unfold readEntities
      rw [asText_eq, List.flatMap_cons, entityOffences, List.append_assoc]
      refine firstOr_bind ?_
      rw [mappingOr_eq]
      exact firstOr_bind (ih _)

theorem readCollections_eq (owner : String) (body : Entries) (kinds : List Kind) :
    readCollections owner body kinds =
      firstOr (collectionsOffences owner body kinds) (collectionsIn owner body kinds) := by
  induction kinds with
  | nil => rfl
  | cons kind rest ih =>
      unfold readCollections collectionsOffences collectionsIn
      rw [List.flatMap_cons, List.filterMap_cons]
      cases Entries.get? body kind.collection with
      | none => exact ih
      | some x =>
          show mappingOr _ x >>= _ = firstOr (collectionOffences owner kind x ++ _) _
          rw [collectionOffences, List.append_assoc, mappingOr_eq]
          refine firstOr_bind ?_
          rw [readEntities_eq]
          refine firstOr_bind ?_
          rw [ih]
          exact firstOr_bind_pure _ _ _

theorem readAggregate_eq (name : String) (body : Data) :
    readAggregate name body =
      firstOr (sectionOffences (.itemNotMapping (.aggregate name)) body ++
          collectionsOffences name body.within Kind.all)
        ⟨name, body.within.filter fun x => !isCollectionKey x.1,
          collectionsIn name body.within Kind.all, none⟩ := by
  unfold readAggregate
  rw [mappingOr_eq]
  refine firstOr_bind ?_
  rw [readCollections_eq]
  exact firstOr_bind_pure _ _ _

theorem readAggregates_eq (es : Entries) (read : List Aggregate) :
    readAggregates es read = firstOr (es.flatMap aggregateOffences)
      ((es.map aggregateOf).foldl (fun read a => putByKey Aggregate.name a read) read) := by
  induction es generalizing read with
  | nil => rfl
  | cons e rest ih =>
      unfold readAggregates
      rw [asText_eq, List.flatMap_cons, aggregateOffences, List.append_assoc]
      refine firstOr_bind ?_
      rw [readAggregate_eq]
      exact firstOr_bind (ih _)

/-- **Reading a document stops at the first offence; without one it gives the model.** -/
theorem ofDocument_eq (document : Data) (source : Option String) :
    Model.ofDocument document source = firstOr document.offences (document.model source) := by
  cases document with
  | mapping es =>
      unfold Model.ofDocument Data.offences Data.model Data.under
      cases h : Entries.get? es aggregatesKey with
      | none =>
          simp only [h]
          rfl
      | some x =>
          simp only [h, Data.within, Option.elim_some]
          rw [aggregatesOffences, mappingOr_eq]
          refine firstOr_bind ?_
          rw [readAggregates_eq]
          exact firstOr_bind_pure _ _ _
  | _ => rfl

/-- A document without an offence is read as its model, and no other one is read. -/
theorem ofDocument_ok_iff {document : Data} {source : Option String} {m : Model} :
    Model.ofDocument document source = .ok m ↔
      document.offences = [] ∧ document.model source = m := by
  rw [ofDocument_eq]
  exact firstOr_eq_ok

/-! ## 7. Documents without offences -/

section Free

variable {α : Type} {p : Offence → Prop} {os ps : List Offence}

/-- None of the offences is of some sort. -/
def Free (p : Offence → Prop) (os : List Offence) : Prop := ∀ e ∈ os, ¬ p e

theorem free_append : Free p (os ++ ps) ↔ Free p os ∧ Free p ps := List.forall_mem_append

theorem free_flatMap {f : α → List Offence} {l : List α} :
    Free p (l.flatMap f) ↔ ∀ x ∈ l, Free p (f x) := List.forall_mem_flatMap

/-- Have some keys texts, if it matters? -/
def Worded (p : Offence → Prop) (keys : List Data) : Prop :=
  p .nameless → ∀ key ∈ keys, key.hasText = true

theorem worded_cons {key : Data} {keys : List Data} :
    Worded p (key :: keys) ↔ Worded p [key] ∧ Worded p keys := by
  unfold Worded
  rw [← imp_and]
  simp only [List.forall_mem_cons, List.not_mem_nil, false_implies, implies_true, and_true]

theorem worded_flatMap {f : α → List Data} {l : List α} :
    Worded p (l.flatMap f) ↔ ∀ x ∈ l, Worded p (f x) := by
  unfold Worded
  rw [List.forall_mem_flatMap]
  exact ⟨fun h x hx hp => h hp x hx, fun h hp x hx => h x hx hp⟩

theorem free_keyOffences (key : Data) : Free p (keyOffences key) ↔ Worded p [key] := by
  unfold Free Worded keyOffences
  rw [List.forall_mem_singleton]
  by_cases h : key.hasText = true
  · rw [if_pos h]
    exact ⟨fun _ _ => h, fun _ e he => absurd he List.not_mem_nil⟩
  · rw [if_neg h, List.forall_mem_singleton]
    exact ⟨fun hnot hp => absurd hp hnot, fun hall hp => h (hall hp)⟩

/-- Does a part have its form, if it matters? -/
def Formed (P : Prop) (b : Bool) : Prop := P → b = true

variable {P : Prop}

theorem formed_and {b c : Bool} : Formed P (b && c) ↔ Formed P b ∧ Formed P c := by
  unfold Formed
  rw [Bool.and_eq_true, imp_and]

theorem formed_all {l : List α} {f : α → Bool} : Formed P (l.all f) ↔ ∀ x ∈ l, Formed P (f x) := by
  unfold Formed
  rw [List.all_eq_true]
  exact ⟨fun h x hx hp => h hp x hx, fun h hp x hx => h x hx hp⟩

variable (hp : ∀ problem, p (.form problem) ↔ P)
include hp

theorem free_form (problem : ModelError) : Free p [.form problem] ↔ Formed P false := by
  unfold Free Formed
  rw [List.forall_mem_singleton, hp]
  exact imp_congr_right fun _ => ⟨fun h => h.elim, Bool.false_ne_true⟩

theorem free_sectionOffences (problem : String → ModelError) (x : Data) :
    Free p (sectionOffences problem x) ↔ Formed P x.isSection := by
  unfold sectionOffences
  cases x.isSection with
  | true => exact ⟨fun _ _ => rfl, fun _ e he => absurd he List.not_mem_nil⟩
  | false => exact free_form hp _

theorem free_collectionOffences (owner : String) (kind : Kind) (x : Data) :
    Free p (collectionOffences owner kind x) ↔
      Formed P x.isCollection ∧ Worded p (x.within.map (·.1)) := by
  unfold collectionOffences entityOffences Data.isCollection
  rw [List.map_eq_flatMap, worded_flatMap, free_append, free_sectionOffences hp, free_flatMap,
    formed_and, formed_all, and_assoc, ← forall₂_and]
  refine and_congr_right fun _ => forall₂_congr fun e _ => ?_
  rw [free_append, free_keyOffences, free_sectionOffences hp, and_comm]

theorem free_collectionsOffences (owner : String) (body : Entries) (kinds : List Kind) :
    Free p (collectionsOffences owner body kinds) ↔
      Formed P (kinds.all fun kind =>
        (Entries.get? body kind.collection).all Data.isCollection) ∧
      Worded p (kinds.flatMap fun kind =>
        ((Entries.get? body kind.collection).elim [] Data.within).map (·.1)) := by
  unfold collectionsOffences
  rw [free_flatMap, worded_flatMap, formed_all, ← forall₂_and]
  refine forall₂_congr fun kind _ => ?_
  cases Entries.get? body kind.collection with
  | none =>
      exact iff_of_true (fun e he => absurd he List.not_mem_nil)
        ⟨fun _ => rfl, fun _ e he => absurd he List.not_mem_nil⟩
  | some x => exact free_collectionOffences hp owner kind x

theorem free_aggregateOffences (e : Data × Data) :
    Free p (aggregateOffences e) ↔ Formed P e.2.isAggregate ∧
      Worded p (e.1 :: Kind.all.flatMap fun kind => (e.2.under kind.collection).map (·.1)) := by
  unfold aggregateOffences Data.isAggregate
  rw [free_append, free_append, free_keyOffences, free_sectionOffences hp,
    free_collectionsOffences hp, formed_and]
  refine Iff.trans ?_ (and_congr_right fun _ => worded_cons.symm)
  constructor
  · rintro ⟨hkey, hbody, hall, hkeys⟩
    exact ⟨⟨hbody, hall⟩, hkey, hkeys⟩
  · rintro ⟨⟨hbody, hall⟩, hkey, hkeys⟩
    exact ⟨hkey, hbody, hall, hkeys⟩

theorem free_aggregatesOffences (x : Data) :
    Free p (aggregatesOffences x) ↔ Formed P x.isAggregates ∧
      Worded p (x.within.flatMap fun a =>
        a.1 :: Kind.all.flatMap fun kind => (a.2.under kind.collection).map (·.1)) := by
  unfold aggregatesOffences Data.isAggregates
  rw [free_append, free_sectionOffences hp, free_flatMap, worded_flatMap, formed_and, formed_all,
    and_assoc, ← forall₂_and]
  exact and_congr_right fun _ => forall₂_congr fun e _ => free_aggregateOffences hp e

/-- **A document has no offence of some sort** if, as far as it matters, it is a model and its names
    have texts. -/
theorem free_offences (document : Data) :
    Free p document.offences ↔ Formed P document.isModel ∧ Worded p document.namingKeys := by
  have hnone (problem : ModelError) : Free p [.form problem] ↔ Formed P false ∧ Worded p [] :=
    (free_form hp problem).trans (and_iff_left fun _ e he => absurd he List.not_mem_nil).symm
  cases document with
  | mapping es =>
      show Free p ((Entries.get? es aggregatesKey).elim [.form .noAggregates] aggregatesOffences) ↔
        Formed P ((Entries.get? es aggregatesKey).any Data.isAggregates) ∧
          Worded p (((Entries.get? es aggregatesKey).elim [] Data.within).flatMap _)
      cases Entries.get? es aggregatesKey with
      | none => exact hnone _
      | some x => exact free_aggregatesOffences hp x
  | _ => exact hnone _

end Free

/-- **A document has no offence exactly if it is a model whose names all have texts.** -/
theorem offences_eq_nil_iff (document : Data) : document.offences = [] ↔
    document.isModel = true ∧ ∀ key ∈ document.namingKeys, key.hasText = true := by
  have h : Free (fun _ => True) document.offences ↔ _ := free_offences (fun _ => Iff.rfl) document
  rw [List.eq_nil_iff_forall_not_mem]
  refine Iff.trans ?_ (h.trans (and_congr true_imp_iff true_imp_iff))
  exact forall_congr' fun e => ⟨fun he hmem => absurd hmem he, fun he hmem => he hmem trivial⟩

/-- **Nothing is wrong with the form of a document exactly if it is a model.** -/
theorem problems_eq_nil_iff (document : Data) :
    document.problems = [] ↔ document.isModel = true := by
  have h : Free (fun o => o.problem? ≠ none) document.offences ↔ _ :=
    free_offences (fun _ => iff_of_true (Option.some_ne_none _) trivial) document
  unfold Data.problems
  rw [List.filterMap_eq_nil_iff]
  refine Iff.trans ?_ (h.trans ((and_iff_left fun hp => absurd rfl hp).trans true_imp_iff))
  exact forall₂_congr fun e _ => not_not.symm

/-- **No name offends exactly if all names have texts**, whatever the document is. -/
theorem nameless_not_mem_iff (document : Data) : .nameless ∉ document.offences ↔
    ∀ key ∈ document.namingKeys, key.hasText = true := by
  have h : Free (· = .nameless) document.offences ↔ _ :=
    free_offences (fun _ => iff_of_false Offence.noConfusion id) document
  refine Iff.trans ?_ (h.trans ((and_iff_right False.elim).trans (forall_prop_of_true rfl)))
  exact ⟨fun hnot o ho heq => hnot (heq ▸ ho), fun hall hmem => hall _ hmem rfl⟩

/-! ## 8. Documents that are not models -/

/-- The failures of texts that cannot be read and of documents that are not models. -/
def Failure.ofDocument : Failure → Bool
  | model _ => true
  | loading _ => true
  | fault _ => true
  | _ => false

/-- A text is refused as one that is not YAML, or with a fault. -/
theorem readDocument_failsAs (text source : String) :
    FailsAs (·.ofDocument = true) (readDocument text source) := by
  unfold readDocument
  split
  · exact .ok _
  · exact .error rfl
  · exact .error rfl

/-- **A document that is not a model is refused with an error of the model**, or with a fault. -/
theorem ofDocument_failsAs (document : Data) (source : Option String) :
    FailsAs (·.ofDocument = true) (Model.ofDocument document source) := by
  intro e he
  rw [ofDocument_eq] at he
  obtain ⟨o, -, rfl⟩ := firstOr_eq_error.mp he
  cases o <;> rfl

end DomainGen
