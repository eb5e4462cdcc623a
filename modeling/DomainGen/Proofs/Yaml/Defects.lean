import DomainGen.Proofs.Yaml.Composition
import DomainGen.Yaml.Value

/-!
# Defects of nodes

A node fails to denote a value where one of the nodes in it, read as a scalar, has none, or because its
structure is not one of safe kinds. So every fault of a document is the fault of one scalar in it, and
without tags of one plain scalar. Also without tags, no such scalar is passed over.

* `Node.Occurs` : a node occurs in another one;
* `Explains` : some nodes, with all that occurs in them, and the errors that they can lead to;
  `yields_openAll`, `yields_mergedEntries` … : **opening collections leads to no others**;
* `Defect`, `defect_of_defect?` : **what fails in a node is something that occurs in it**;
* `Composed.fault` : **without a tag only a plain scalar is at fault**;
* `Untagged`, `Sound`, `sound_of_defect?` : **without tags a node with a fault in it denotes no value**.
-/

namespace DomainGen.Yaml.Node

/-! ## 1. Nodes in nodes -/

/-- A node occurs in another one. -/
inductive Occurs (m : Node) : Node → Prop where
  | self : Occurs m m
  | item {tag : Tag} {items : List Node} {n : Node} (h : n ∈ items) (hm : Occurs m n) :
      Occurs m (.sequence tag items)
  | key {tag : Tag} {entries : List (Node × Node)} {e : Node × Node} (h : e ∈ entries)
      (hm : Occurs m e.1) : Occurs m (.mapping tag entries)
  | value {tag : Tag} {entries : List (Node × Node)} {e : Node × Node} (h : e ∈ entries)
      (hm : Occurs m e.2) : Occurs m (.mapping tag entries)

theorem Occurs.trans {m n root : Node} (hm : Occurs m n) (hn : Occurs n root) : Occurs m root := by
  induction hn with
  | self => exact hm
  | item h _ ih => exact .item h ih
  | key h _ ih => exact .key h ih
  | value h _ ih => exact .value h ih

/-- The keys and values of some entries have a property. -/
def EntriesAre (Q : Node → Prop) (entries : List (Node × Node)) : Prop :=
  ∀ e ∈ entries, Q e.1 ∧ Q e.2

/-- The nodes that a node directly consists of have a property. -/
def PartsAre (Q : Node → Prop) : Node → Prop
  | .scalar _ _ => True
  | .sequence _ items => ∀ n ∈ items, Q n
  | .mapping _ entries => EntriesAre Q entries

/-- A property that all parts of a node have if the node has it. -/
def Inherited (Q : Node → Prop) : Prop := ∀ n, Q n → PartsAre Q n

theorem inherited_occurs (root : Node) : Inherited (·.Occurs root)
  | .scalar _ _, _ => trivial
  | .sequence _ _, h => fun _ hn => Occurs.trans (.item hn .self) h
  | .mapping _ _, h => fun _ he => ⟨Occurs.trans (.key he .self) h, Occurs.trans (.value he .self) h⟩

section Lists

variable {Q : Node → Prop}

theorem entriesAre_nil : EntriesAre Q [] := fun _ h => absurd h List.not_mem_nil

theorem entriesAre_append {es fs : List (Node × Node)} (he : EntriesAre Q es) (hf : EntriesAre Q fs) :
    EntriesAre Q (es ++ fs) := List.forall_mem_append.mpr ⟨he, hf⟩

theorem entriesAre_own {entries : List (Node × Node)} (h : EntriesAre Q entries) :
    EntriesAre Q (ownEntries entries) := fun e he => h e (List.mem_of_mem_filter he)

end Lists

/-! ## 2. Merged entries -/

section Merging

variable {Q : Node → Prop}

mutual

theorem yields_mergedEntries (hQ : Inherited Q) : ∀ {entries : List (Node × Node)}, EntriesAre Q entries →
    Yields (EntriesAre Q) (· = .malformed) (mergedEntries entries)
  | [], _ => .ok entriesAre_nil
  | (k, v) :: rest, h => by
      obtain ⟨⟨_, hv⟩, hrest⟩ := List.forall_mem_cons.mp h
      have hmore := yields_mergedEntries hQ hrest
      have hfirst := yields_contribution hQ hv
      unfold mergedEntries
      refine Yields.ite (fun _ => ?_) fun _ => ?_
      · exact hfirst.bind fun first hfirst => hmore.bind fun more hmore =>
          .ok (entriesAre_append hfirst hmore)
      · exact (Yields.ok entriesAre_nil).bind fun first hfirst => hmore.bind fun more hmore =>
          .ok (entriesAre_append hfirst hmore)

theorem yields_contribution (hQ : Inherited Q) : ∀ {n : Node}, Q n →
    Yields (EntriesAre Q) (· = .malformed) (contribution n)
  | .mapping _ entries, h => by
      have hentries : EntriesAre Q entries := hQ _ h
      unfold contribution
      exact (yields_mergedEntries hQ hentries).bind fun merged hmerged =>
        .ok (entriesAre_append hmerged (entriesAre_own hentries))
  | .sequence _ items, h => by
      unfold contribution
      exact yields_contributions hQ (hQ _ h)
  | .scalar _ _, _ => .error rfl

theorem yields_contributions (hQ : Inherited Q) : ∀ {items : List Node}, (∀ n ∈ items, Q n) →
    Yields (EntriesAre Q) (· = .malformed) (contributions items)
  | [], _ => .ok entriesAre_nil
  | .mapping _ entries :: rest, h => by
      obtain ⟨hn, hrest⟩ := List.forall_mem_cons.mp h
      have hentries : EntriesAre Q entries := hQ _ hn
      unfold contributions
      refine (yields_mergedEntries hQ hentries).bind fun merged hmerged => ?_
      exact (yields_contributions hQ hrest).bind fun more hmore => .ok (entriesAre_append hmore
        (entriesAre_append hmerged (entriesAre_own hentries)))
  | .sequence _ _ :: _, _ => .error rfl
  | .scalar _ _ :: _, _ => .error rfl

end

theorem yields_flatEntries (hQ : Inherited Q) : ∀ {n : Node}, PartsAre Q n →
    Yields (EntriesAre Q) (· = .malformed) n.flatEntries
  | .mapping _ entries, h => by
      have hentries : EntriesAre Q entries := h
      unfold flatEntries
      exact (yields_mergedEntries hQ hentries).bind fun merged hmerged =>
        .ok (entriesAre_append hmerged (entriesAre_own hentries))
  | .sequence _ _, _ => .error rfl
  | .scalar _ _, _ => .error rfl

end Merging

/-! ## 3. Collections that are opened -/

/-- A key `=` is read as a text. -/
theorem readAsScalar_asKey {n : Node} {e : ReadError} (h : n.asKey.readAsScalar = .error e) :
    e = .malformed ∨ n.readAsScalar = .error e := by
  have htext {m : Node} (hm : m.tag = .text) (he : m.readAsScalar = .error e) : e = .malformed := by
    unfold readAsScalar at he
    rw [hm] at he
    dsimp only at he
    split at he
    · cases he
    · exact (Except.error.inj he).symm
  unfold asKey at h
  split at h
  · exact .inl (htext rfl h)
  · exact .inl (htext rfl h)
  · exact .inl (htext rfl h)
  · exact .inr h

theorem readAsScalar_settle {found : List String} {n : Node} {e : ReadError}
    (h : (n.settle found).readAsScalar = .error e) : e = .malformed ∨ n.readAsScalar = .error e := by
  unfold settle at h
  split at h
  · split at h
    · exact readAsScalar_asKey h
    · exact .inr h
  · exact .inr h

/-- Some nodes, with all their parts, and the errors that they can lead to. -/
structure Explains (Q : Node → Prop) (E : ReadError → Prop) : Prop where
  inherited : Inherited Q
  malformed : E .malformed
  read : ∀ n, Q n → ∀ e, n.readAsScalar = .error e → E e

section Opening

variable {Q : Node → Prop} {E : ReadError → Prop} {found : List String} (hE : Explains Q E)
include hE

/-- A node is met, as it is or as a text. -/
theorem yields_meet {n : Node} (h : Q n) : Yields (fun met => ∀ m ∈ met, Q m) E (n.meet found) := by
  unfold meet
  refine .ite (fun _ => .ok (List.forall_mem_singleton.mpr h)) fun _ => ?_
  split
  · exact .ok fun _ hm => absurd hm List.not_mem_nil
  · rename_i e he
    rcases readAsScalar_settle he with rfl | he
    · exact .error hE.malformed
    · exact .error (hE.read n h e he)

/-- A key is met as a text if it is `=`. -/
theorem fails_meet_asKey {k : Node} (h : Q k) : FailsAs E (k.asKey.meet found) := by
  unfold meet
  split
  · exact FailsAs.ok _
  · split
    · exact FailsAs.ok _
    · rename_i e he
      rcases readAsScalar_settle he with rfl | he
      · exact FailsAs.error hE.malformed
      · rcases readAsScalar_asKey he with rfl | he
        · exact FailsAs.error hE.malformed
        · exact FailsAs.error (hE.read k h e he)

theorem yields_meetAll : ∀ {items : List Node}, (∀ n ∈ items, Q n) →
    Yields (fun met => ∀ m ∈ met, Q m) E (meetAll found items)
  | [], _ => .ok fun _ hm => absurd hm List.not_mem_nil
  | n :: rest, h => by
      obtain ⟨hn, hrest⟩ := List.forall_mem_cons.mp h
      unfold meetAll
      refine (yields_meet hE hn).bind fun first hfirst => ?_
      exact (yields_meetAll hrest).bind fun more hmore => .ok (List.forall_mem_append.mpr ⟨hfirst, hmore⟩)

theorem yields_meetEntries : ∀ {entries : List (Node × Node)}, EntriesAre Q entries →
    Yields (fun met => ∀ m ∈ met, Q m) E (meetEntries found entries)
  | [], _ => .ok fun _ hm => absurd hm List.not_mem_nil
  | (k, v) :: rest, h => by
      obtain ⟨⟨hk, hv⟩, hrest⟩ := List.forall_mem_cons.mp h
      unfold meetEntries
      refine .ite (fun _ => .error hE.malformed) fun _ => ?_
      refine Yields.bind (P := fun _ => True) ⟨fun _ _ => trivial, fails_meet_asKey hE hk⟩ fun _ _ => ?_
      refine (yields_meet hE hv).bind fun first hfirst => ?_
      exact (yields_meetEntries hrest).bind fun more hmore =>
        .ok (List.forall_mem_append.mpr ⟨hfirst, hmore⟩)

theorem yields_meetPairs : ∀ {items : List Node}, (∀ n ∈ items, Q n) →
    Yields (fun met => ∀ m ∈ met, Q m) E (meetPairs found items)
  | [], _ => .ok fun _ hm => absurd hm List.not_mem_nil
  | n :: rest, h => by
      obtain ⟨hn, hrest⟩ := List.forall_mem_cons.mp h
      unfold meetPairs
      split
      · exact .ok fun _ hm => absurd hm List.not_mem_nil
      · rename_i k v rest heq
        cases heq
        obtain ⟨hk, hv⟩ := hE.inherited _ hn _ List.mem_cons_self
        refine (yields_meet hE hk).bind fun key hkey => (yields_meet hE hv).bind fun first hfirst => ?_
        refine (yields_meetPairs hrest).bind fun more hmore => .ok ?_
        exact List.forall_mem_append.mpr ⟨List.forall_mem_append.mpr ⟨hkey, hfirst⟩, hmore⟩
      · exact .error hE.malformed

theorem yields_openEntries {n : Node} (h : PartsAre Q n) :
    Yields (fun o => ∀ m ∈ o.met, Q m) E (n.flatEntries >>= openEntries found) := by
  have hflat := (yields_flatEntries hE.inherited h).imp fun _ he => he ▸ hE.malformed
  refine hflat.bind fun entries hentries => ?_
  unfold openEntries
  exact (yields_meetEntries hE hentries).bind fun met hmet => .ok hmet

/-- **Opening a collection meets what its parts lead to.** -/
theorem yields_openCollection {n : Node} (h : PartsAre Q n) :
    Yields (fun o => ∀ m ∈ o.met, Q m) E (openCollection found n) := by
  unfold openCollection
  split
  · exact (yields_meetAll hE h).bind fun met hmet => .ok hmet
  · exact (yields_meetPairs hE h).bind fun met hmet => .ok hmet
  · exact yields_openEntries hE h
  · exact yields_openEntries hE h
  · exact .error hE.malformed

theorem yields_openAll : ∀ {level : List Node} {found : List String}, (∀ n ∈ level, PartsAre Q n) →
    Yields (fun o => ∀ m ∈ o.met, Q m) E (openAll found level)
  | [], _, _ => .ok fun _ hm => absurd hm List.not_mem_nil
  | n :: rest, found, h => by
      obtain ⟨hn, hrest⟩ := List.forall_mem_cons.mp h
      unfold openAll
      refine (yields_openCollection hE hn).bind fun first hfirst => ?_
      exact (yields_openAll hrest).bind fun more hmore => .ok (List.forall_mem_append.mpr ⟨hfirst, hmore⟩)

theorem explained_of_firstDefect : ∀ {depth : Nat} {found : List String} {level : List Node} {e : ReadError},
    (∀ n ∈ level, Q n) → firstDefect found depth level = some e → E e
  | 0, _, _, _, _, h => by cases h
  | depth + 1, found, level, e, hlevel, h => by
      have hopen : Yields _ E (openAll found level) :=
        yields_openAll hE fun n hn => hE.inherited n (hlevel n hn)
      unfold firstDefect at h
      split at h
      · rename_i e' he
        cases h
        exact hopen.fails _ he
      · rename_i next hnext
        exact explained_of_firstDefect (hopen.gives _ hnext) h

end Opening

/-! ## 4. What fails in a node -/

/-- Why a node denotes no value: its structure is of no safe kind, or a node in it, read as a scalar, has
    no value. -/
def Defect (root : Node) (e : ReadError) : Prop :=
  e = .malformed ∨ ∃ n : Node, n.Occurs root ∧ n.readAsScalar = .error e

theorem explains_defect (root : Node) : Explains (·.Occurs root) (Defect root) where
  inherited := inherited_occurs root
  malformed := .inl rfl
  read n hn _ he := .inr ⟨n, hn, he⟩

/-- **What fails in a node is its structure or something that occurs in it.** -/
theorem defect_of_defect? {n : Node} {e : ReadError} (h : n.defect? = some e) : Defect n e := by
  have hmeet : Yields _ (Defect n) (n.meet []) := yields_meet (explains_defect n) .self
  unfold defect? at h
  split at h
  · rename_i e' he
    cases h
    exact hmeet.fails _ he
  · rename_i first hfirst
    exact explained_of_firstDefect (explains_defect n) (hmeet.gives _ hfirst) h

/-! ## 5. Nodes without tags -/

variable {ts : List Token}

theorem eq_or_occurs_of_anchored {m n : Node} {anchor : String} (h : m.Occurs (n.anchored anchor)) :
    m = n.anchored anchor ∨ m.Occurs n := by
  cases n with
  | scalar tag text =>
      cases h with
      | self => exact .inl rfl
  | sequence tag items =>
      cases h with
      | self => exact .inl rfl
      | item h hm => exact .inr (.item h hm)
  | mapping tag entries =>
      cases h with
      | self => exact .inl rfl
      | key h hm => exact .inr (.key h hm)
      | value h hm => exact .inr (.value h hm)

/-- What occurs in a node of some tokens is put together from these tokens. -/
theorem Composed.of_occurs {m n : Node} (hn : n.Composed ts) (hm : m.Occurs n) : m.Composed ts := by
  induction hn with
  | scalar h htag =>
      cases hm with
      | self => exact .scalar h htag
  | bare htag =>
      cases hm with
      | self => exact .bare htag
  | sequence h htag ih =>
      cases hm with
      | self => exact .sequence h htag
      | item hmem hm => exact ih _ hmem hm
  | mapping hkeys hvalues htag ihkeys ihvalues =>
      cases hm with
      | self => exact .mapping hkeys hvalues htag
      | key hmem hm => exact ihkeys _ hmem hm
      | value hmem hm => exact ihvalues _ hmem hm
  | anchored anchor h ih =>
      rcases eq_or_occurs_of_anchored hm with rfl | hm
      · exact .anchored anchor h
      · exact ih hm

theorem readAsScalar_scalar (tag : Tag) (text : String) :
    (scalar tag text).readAsScalar = readScalar tag text := by
  unfold readAsScalar
  split
  · rename_i heq
    cases heq
  · rfl

/-- Kinds that are no kinds of scalars have no faults, and neither has `=`. -/
theorem readAsScalar_of_unread {n : Node}
    (h : ∀ text, readScalar n.tag text = .error .malformed) : n.readAsScalar = .error .malformed := by
  unfold readAsScalar
  split
  · rename_i hmoment
    have hread := congrArg failure? (h "")
    rw [hmoment] at hread
    exact absurd hread (by decide)
  · split
    · exact h _
    · rfl

theorem ne_fault_of_unread {n : Node} (h : ∀ text, readScalar n.tag text = .error .malformed)
    (f : Fault) : n.readAsScalar ≠ .error (.fault f) := by
  intro hf
  rw [readAsScalar_of_unread h] at hf
  cases hf

/-- An anchor changes no node that has a fault. -/
theorem anchored_of_fault {n : Node} {anchor : String} {f : Fault}
    (h : (n.anchored anchor).readAsScalar = .error (.fault f)) : n.anchored anchor = n := by
  have htag : (n.anchored anchor).tag = n.tag.anchored anchor := by
    cases n <;> rfl
  have hself (hplain : n.tag.anchored anchor = n.tag) : n.anchored anchor = n := by
    cases n with
    | scalar tag text => exact congrArg (scalar · text) hplain
    | sequence tag items => exact congrArg (sequence · items) hplain
    | mapping tag entries => exact congrArg (mapping · entries) hplain
  cases hkind : n.tag with
  | value name =>
      rw [hkind] at htag
      exact absurd h (ne_fault_of_unread (fun _ => by rw [htag]; rfl) f)
  | _ => exact hself (by rw [hkind]; rfl)

/-- **Without a tag, only a plain scalar has a fault of its own.** -/
theorem Composed.fault {n : Node} {f : Fault} (h : n.Composed ts)
    (hread : n.readAsScalar = .error (.fault f)) :
    (∃ handle suffix, Token.tag handle suffix ∈ ts) ∨
      ∃ text, Token.scalar text true ∈ ts ∧ n = .scalar (Tag.ofPlain text) text := by
  induction h with
  | @scalar text plain tag h htag =>
      cases tag with
      | some name => exact .inl (htag (Option.some_ne_none _))
      | none =>
          rw [readAsScalar_scalar] at hread
          cases plain with
          | true => exact .inr ⟨text, h, rfl⟩
          | false => cases hread
  | @bare tag htag =>
      cases tag with
      | some name => exact .inl (htag (Option.some_ne_none _))
      | none => cases hread
  | @sequence items tag h htag =>
      cases tag with
      | some name => exact .inl (htag (Option.some_ne_none _))
      | none => exact absurd hread (ne_fault_of_unread (fun _ => rfl) f)
  | @mapping entries tag _ _ htag =>
      cases tag with
      | some name => exact .inl (htag (Option.some_ne_none _))
      | none => exact absurd hread (ne_fault_of_unread (fun _ => rfl) f)
  | anchored anchor _ ih =>
      have hself := anchored_of_fault hread
      rw [hself] at hread ⊢
      exact ih hread

/-! ## 6. Nodes without faults -/

/-- A node whose collections are of the kinds that collections have without tags. -/
inductive Untagged : Node → Prop where
  | scalar {tag : Tag} {text : String} (h : tag.isCollection = false) : Untagged (.scalar tag text)
  | sequence {items : List Node} (h : ∀ n ∈ items, Untagged n) : Untagged (.sequence .sequence items)
  | mapping {entries : List (Node × Node)} (hkeys : ∀ e ∈ entries, Untagged e.1)
      (hvalues : ∀ e ∈ entries, Untagged e.2) : Untagged (.mapping .mapping entries)

theorem isCollection_ofPlain (text : String) : (Tag.ofPlain text).isCollection = false := by
  unfold Tag.ofPlain
  dsimp only
  repeat' split
  all_goals rfl

theorem Untagged.anchored {n : Node} (h : n.Untagged) (anchor : String) :
    (n.anchored anchor).Untagged := by
  cases h with
  | @scalar tag text h =>
      refine .scalar ?_
      cases tag <;> exact h
  | sequence h => exact .sequence h
  | mapping hkeys hvalues => exact .mapping hkeys hvalues

/-- Without a tag among the tokens, the nodes have none. -/
theorem Composed.untagged {n : Node} (h : n.Composed ts)
    (hno : ¬ ∃ handle suffix, Token.tag handle suffix ∈ ts) : n.Untagged := by
  have hnone {tag : Option String} (htag : Tagged ts tag) : tag = none :=
    Decidable.byContradiction fun hsome => hno (htag hsome)
  induction h with
  | @scalar text plain tag h htag =>
      obtain rfl := hnone htag
      cases plain with
      | true => exact .scalar (isCollection_ofPlain text)
      | false => exact .scalar rfl
  | bare htag =>
      obtain rfl := hnone htag
      exact .scalar rfl
  | sequence _ htag ih =>
      obtain rfl := hnone htag
      exact .sequence ih
  | mapping _ _ htag ihkeys ihvalues =>
      obtain rfl := hnone htag
      exact .mapping ihkeys ihvalues
  | anchored anchor _ ih => exact ih.anchored anchor

/-- No node in a node has a fault of its own. -/
def Sound (n : Node) : Prop := ∀ m : Node, m.Occurs n → ∀ f, m.readAsScalar ≠ .error (.fault f)

theorem sound_scalar {tag : Tag} {text : String}
    (h : ∀ f, (scalar tag text).readAsScalar ≠ .error (.fault f)) : (scalar tag text).Sound := by
  intro m hm
  cases hm with
  | self => exact h

theorem sound_sequence {items : List Node} (h : ∀ n ∈ items, n.Sound) :
    (sequence .sequence items).Sound := by
  intro m hm f hf
  cases hm with
  | self => exact ne_fault_of_unread (fun _ => rfl) f hf
  | item hn hm => exact h _ hn m hm f hf

theorem sound_mapping {entries : List (Node × Node)} (h : EntriesAre Sound entries) :
    (mapping .mapping entries).Sound := by
  intro m hm f hf
  cases hm with
  | self => exact ne_fault_of_unread (fun _ => rfl) f hf
  | key he hm => exact (h _ he).1 m hm f hf
  | value he hm => exact (h _ he).2 m hm f hf

/-- A key `<<` has no fault. -/
theorem sound_of_merge {k : Node} (h : k.Untagged) (hk : k.tag = .merge) : k.Sound := by
  cases h with
  | scalar _ => exact sound_scalar (ne_fault_of_unread fun _ => by rw [hk]; rfl)
  | sequence _ => cases hk
  | mapping _ _ => cases hk

/-! ## 7. No fault is passed over -/

theorem mergedEntries_cons_eq_ok {k v : Node} {rest es : List (Node × Node)}
    (h : mergedEntries ((k, v) :: rest) = .ok es) : ∃ first more,
      (k.tag = .merge → contribution v = .ok first) ∧ mergedEntries rest = .ok more ∧
        first ++ more = es := by
  unfold mergedEntries at h
  split at h
  · obtain ⟨first, hfirst, h⟩ := except_bind_eq_ok.mp h
    obtain ⟨more, hmore, h⟩ := except_bind_eq_ok.mp h
    exact ⟨first, more, fun _ => hfirst, hmore, Except.ok.inj h⟩
  · rename_i hother
    obtain ⟨first, hfirst, h⟩ := except_bind_eq_ok.mp h
    obtain ⟨more, hmore, h⟩ := except_bind_eq_ok.mp h
    exact ⟨first, more, fun hmerge => absurd (beq_iff_eq.mpr hmerge) hother, hmore, Except.ok.inj h⟩

mutual

/-- Where what a key `<<` contributes has no fault, the value of the key has none. -/
theorem sound_of_mergedEntries : ∀ {entries es : List (Node × Node)}, EntriesAre Untagged entries →
    mergedEntries entries = .ok es → EntriesAre Sound es →
      ∀ e ∈ entries, e.1.tag = .merge → e.2.Sound
  | [], _, _, _, _, _, he, _ => absurd he List.not_mem_nil
  | (k, v) :: rest, es, h, hes, hsound, e, he, hmerge => by
      obtain ⟨⟨_, hv⟩, hrest⟩ := List.forall_mem_cons.mp h
      obtain ⟨first, more, hfirst, hmore, rfl⟩ := mergedEntries_cons_eq_ok hes
      obtain ⟨hfsound, hmsound⟩ := List.forall_mem_append.mp hsound
      rcases List.mem_cons.mp he with rfl | he
      · exact sound_of_contribution hv (hfirst hmerge) hfsound
      · exact sound_of_mergedEntries hrest hmore hmsound e he hmerge

theorem sound_of_contribution : ∀ {n : Node} {es : List (Node × Node)}, n.Untagged →
    contribution n = .ok es → EntriesAre Sound es → n.Sound
  | .mapping _ entries, es, h, hes, hsound => by
      cases h with
      | mapping hkeys hvalues =>
          unfold contribution at hes
          obtain ⟨merged, hmerged, hes⟩ := except_bind_eq_ok.mp hes
          cases hes
          obtain ⟨hmsound, hosound⟩ := List.forall_mem_append.mp hsound
          refine sound_mapping fun e he => ?_
          by_cases hmerge : e.1.tag = .merge
          · exact ⟨sound_of_merge (hkeys e he) hmerge, sound_of_mergedEntries
              (fun e he => ⟨hkeys e he, hvalues e he⟩) hmerged hmsound e he hmerge⟩
          · exact hosound e (List.mem_filter.mpr ⟨he, bne_iff_ne.mpr hmerge⟩)
  | .sequence _ items, es, h, hes, hsound => by
      cases h with
      | sequence h =>
          unfold contribution at hes
          exact sound_sequence (sound_of_contributions h hes hsound)
  | .scalar _ _, _, _, hes, _ => by cases hes

theorem sound_of_contributions : ∀ {items : List Node} {es : List (Node × Node)},
    (∀ n ∈ items, n.Untagged) → contributions items = .ok es → EntriesAre Sound es →
      ∀ n ∈ items, n.Sound
  | [], _, _, _, _, _, hn => absurd hn List.not_mem_nil
  | .mapping tag entries :: rest, es, h, hes, hsound, n, hn => by
      obtain ⟨hfirst, hrest⟩ := List.forall_mem_cons.mp h
      unfold contributions at hes
      obtain ⟨merged, hmerged, hes⟩ := except_bind_eq_ok.mp hes
      obtain ⟨more, hmore, hes⟩ := except_bind_eq_ok.mp hes
      cases hes
      obtain ⟨hmsound, hfsound⟩ := List.forall_mem_append.mp hsound
      rcases List.mem_cons.mp hn with rfl | hn
      · refine sound_of_contribution hfirst ?_ hfsound
        unfold contribution
        rw [hmerged]
        rfl
      · exact sound_of_contributions hrest hmore hmsound n hn
  | .sequence _ _ :: _, _, _, hes, _, _, _ => by cases hes
  | .scalar _ _ :: _, _, _, hes, _, _, _ => by cases hes

end

/-- A node with a fault of its own is met as it is, also as a key. -/
theorem eq_of_fault {n : Node} {f : Fault} (h : n.readAsScalar = .error (.fault f)) :
    n.asKey = n ∧ ∀ found, n.settle found = n := by
  have hplain (anchor : String) : n.tag ≠ .value anchor := fun htag =>
    ne_fault_of_unread (fun _ => by rw [htag]; rfl) f h
  constructor
  · unfold asKey
    split
    · exact absurd rfl (hplain _)
    · exact absurd rfl (hplain _)
    · exact absurd rfl (hplain _)
    · rfl
  · intro found
    unfold settle
    split
    · exact absurd ‹_› (hplain _)
    · rfl

section Opening

variable {found : List String}

theorem no_fault_of_meet {n : Node} {met : List Node} (hn : n.tag.isCollection = false)
    (h : n.meet found = .ok met) (f : Fault) : n.readAsScalar ≠ .error (.fault f) := by
  intro hf
  unfold meet at h
  rw [hn, if_neg Bool.false_ne_true, (eq_of_fault hf).2, hf] at h
  cases h

theorem sound_of_meet {n : Node} {met : List Node} (hn : n.Untagged) (h : n.meet found = .ok met)
    (hmet : ∀ m ∈ met, m.Sound) : n.Sound := by
  cases hn with
  | scalar htag => exact sound_scalar (no_fault_of_meet htag h)
  | sequence _ =>
      cases h
      exact hmet _ List.mem_cons_self
  | mapping _ _ =>
      cases h
      exact hmet _ List.mem_cons_self

theorem sound_of_key {k : Node} {met : List Node} (hk : k.Untagged) (htag : k.tag.isCollection = false)
    (h : k.asKey.meet found = .ok met) : k.Sound := by
  cases hk with
  | scalar _ =>
      refine sound_scalar fun f hf => ?_
      rw [(eq_of_fault hf).1] at h
      exact no_fault_of_meet htag h f hf
  | sequence _ => cases htag
  | mapping _ _ => cases htag

theorem sound_of_meetAll : ∀ {items met : List Node}, (∀ n ∈ items, n.Untagged) →
    meetAll found items = .ok met → (∀ m ∈ met, m.Sound) → ∀ n ∈ items, n.Sound
  | [], _, _, _, _ => fun _ hn => absurd hn List.not_mem_nil
  | n :: rest, met, h, hmeet, hmet => by
      obtain ⟨hn, hrest⟩ := List.forall_mem_cons.mp h
      unfold meetAll at hmeet
      obtain ⟨first, hfirst, hmeet⟩ := except_bind_eq_ok.mp hmeet
      obtain ⟨more, hmore, hmeet⟩ := except_bind_eq_ok.mp hmeet
      cases hmeet
      obtain ⟨hfsound, hmsound⟩ := List.forall_mem_append.mp hmet
      exact List.forall_mem_cons.mpr
        ⟨sound_of_meet hn hfirst hfsound, sound_of_meetAll hrest hmore hmsound⟩

theorem sound_of_meetEntries : ∀ {entries : List (Node × Node)} {met : List Node},
    EntriesAre Untagged entries → meetEntries found entries = .ok met → (∀ m ∈ met, m.Sound) →
      EntriesAre Sound entries
  | [], _, _, _, _ => entriesAre_nil
  | (k, v) :: rest, met, h, hmeet, hmet => by
      obtain ⟨⟨hk, hv⟩, hrest⟩ := List.forall_mem_cons.mp h
      unfold meetEntries at hmeet
      split at hmeet
      · cases hmeet
      · rename_i htag
        obtain ⟨_, hkey, hmeet⟩ := except_bind_eq_ok.mp hmeet
        obtain ⟨first, hfirst, hmeet⟩ := except_bind_eq_ok.mp hmeet
        obtain ⟨more, hmore, hmeet⟩ := except_bind_eq_ok.mp hmeet
        cases hmeet
        obtain ⟨hfsound, hmsound⟩ := List.forall_mem_append.mp hmet
        exact List.forall_mem_cons.mpr
          ⟨⟨sound_of_key hk (Bool.eq_false_iff.mpr htag) hkey, sound_of_meet hv hfirst hfsound⟩,
            sound_of_meetEntries hrest hmore hmsound⟩

theorem inherited_untagged : Inherited Untagged := by
  intro n hn
  cases hn with
  | scalar _ => trivial
  | sequence h => exact h
  | mapping hkeys hvalues => exact fun e he => ⟨hkeys e he, hvalues e he⟩

theorem sound_of_openCollection {n : Node} {o : Opened} (hn : n.Untagged)
    (h : n.openCollection found = .ok o) (hmet : ∀ m ∈ o.met, m.Sound) : n.Sound := by
  cases hn with
  | @scalar tag text _ => cases tag <;> cases h
  | sequence hitems =>
      obtain ⟨met, hmeet, h⟩ := except_bind_eq_ok.mp h
      cases h
      exact sound_sequence (sound_of_meetAll hitems hmeet hmet)
  | @mapping entries hkeys hvalues =>
      have hn : (mapping .mapping entries).Untagged := .mapping hkeys hvalues
      obtain ⟨es, hes, h⟩ := except_bind_eq_ok.mp h
      obtain ⟨met, hmeet, h⟩ := except_bind_eq_ok.mp h
      cases h
      have huntagged := (yields_flatEntries inherited_untagged (inherited_untagged _ hn)).gives es hes
      refine sound_of_contribution hn ?_ (sound_of_meetEntries huntagged hmeet hmet)
      unfold contribution
      exact hes

theorem sound_of_openAll : ∀ {level : List Node} {found : List String} {o : Opened},
    (∀ n ∈ level, n.Untagged) → openAll found level = .ok o → (∀ m ∈ o.met, m.Sound) →
      ∀ n ∈ level, n.Sound
  | [], _, _, _, _, _ => fun _ hn => absurd hn List.not_mem_nil
  | n :: rest, found, o, h, hopen, hmet => by
      obtain ⟨hn, hrest⟩ := List.forall_mem_cons.mp h
      unfold openAll at hopen
      obtain ⟨first, hfirst, hopen⟩ := except_bind_eq_ok.mp hopen
      obtain ⟨more, hmore, hopen⟩ := except_bind_eq_ok.mp hopen
      cases hopen
      obtain ⟨hfsound, hmsound⟩ := List.forall_mem_append.mp hmet
      exact List.forall_mem_cons.mpr
        ⟨sound_of_openCollection hn hfirst hfsound, sound_of_openAll hrest hmore hmsound⟩

end Opening

/-! ## 8. All of a node is opened -/

theorem depth_le_of_mem : ∀ {items : List Node} {n : Node}, n ∈ items → n.depth ≤ depthOfItems items
  | first :: rest, n, h => by
      rw [depthOfItems]
      rcases List.mem_cons.mp h with rfl | h
      · exact Nat.le_max_left _ _
      · exact Nat.le_trans (depth_le_of_mem h) (Nat.le_max_right _ _)

theorem depths_le_of_mem : ∀ {entries : List (Node × Node)} {e : Node × Node}, e ∈ entries →
    e.1.depth ≤ depthOfEntries entries ∧ e.2.depth ≤ depthOfEntries entries
  | (k, v) :: rest, e, h => by
      rw [depthOfEntries]
      rcases List.mem_cons.mp h with rfl | h
      · exact ⟨Nat.le_trans (Nat.le_max_left _ _) (Nat.le_max_left _ _),
          Nat.le_trans (Nat.le_max_right _ _) (Nat.le_max_left _ _)⟩
      · obtain ⟨hkey, hvalue⟩ := depths_le_of_mem h
        exact ⟨Nat.le_trans hkey (Nat.le_max_right _ _), Nat.le_trans hvalue (Nat.le_max_right _ _)⟩

/-- Nodes without tags, nested no deeper than some depth. -/
def Shallow (depth : Nat) (n : Node) : Prop := n.Untagged ∧ n.depth ≤ depth

/-- The parts of a node are nested less deep. -/
theorem shallow_parts {depth : Nat} {n : Node} (h : Shallow (depth + 1) n) :
    PartsAre (Shallow depth) n := by
  obtain ⟨huntagged, hdepth⟩ := h
  cases huntagged with
  | scalar _ => trivial
  | sequence hitems =>
      rw [Node.depth] at hdepth
      intro m hm
      have := depth_le_of_mem hm
      exact ⟨hitems m hm, by omega⟩
  | mapping hkeys hvalues =>
      rw [Node.depth] at hdepth
      intro e he
      obtain ⟨hkey, hvalue⟩ := depths_le_of_mem he
      exact ⟨⟨hkeys e he, by omega⟩, hvalues e he, by omega⟩

theorem explains_shallow (depth : Nat) : Explains (Shallow depth) fun _ => True where
  inherited _ h := shallow_parts ⟨h.1, Nat.le_succ_of_le h.2⟩
  malformed := trivial
  read _ _ _ _ := trivial

theorem sound_of_firstDefect : ∀ {depth : Nat} {found : List String} {level : List Node},
    (∀ n ∈ level, Shallow depth n) → firstDefect found depth level = none → ∀ n ∈ level, n.Sound
  | 0, _, _, hlevel, _ => by
      intro n hn
      have hdepth := (hlevel n hn).2
      cases n <;> rw [Node.depth] at hdepth <;> omega
  | depth + 1, found, level, hlevel, h => by
      unfold firstDefect at h
      split at h
      · cases h
      · rename_i next hnext
        have hmet := (yields_openAll (explains_shallow depth)
          fun n hn => shallow_parts (hlevel n hn)).gives _ hnext
        exact sound_of_openAll (fun n hn => (hlevel n hn).1) hnext (sound_of_firstDefect hmet h)

/-- **Without tags, no fault in a node is passed over.** -/
theorem sound_of_defect? {n : Node} (hn : n.Untagged) (h : n.defect? = none) : n.Sound := by
  unfold defect? at h
  split at h
  · cases h
  · rename_i first hfirst
    have hmet := (yields_meet (explains_shallow n.depth) ⟨hn, Nat.le_refl _⟩).gives _ hfirst
    exact sound_of_meet hn hfirst (sound_of_firstDefect hmet h)

end DomainGen.Yaml.Node
