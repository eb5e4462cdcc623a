import DomainGen.Proofs.Except
import DomainGen.Yaml.Node

/-!
# Nodes of tokens

A node is put together from tokens: a scalar from a token that has its text, a collection from nodes.
Its kind comes from a tag that is there or else from its form. Where the tokens go on in no way, they
are no document, or it is said in one of them what is wrong.

* `Node.Composed` : the nodes that can be put together from some tokens;
* `Composes` : a reading that gives such nodes, or stops for such a reason;
* `composes_node`, `composes_blockItems` … : **every reading of nodes is one**;
* `composed_ofTokens?` : **so is the reading of a document**.
-/

namespace DomainGen.Yaml

open Composer

variable {ts : List Token}

/-! ## 1. Nodes that can be put together -/

/-- If there is a tag, one is among the tokens. -/
def Tagged (ts : List Token) (tag : Option String) : Prop :=
  tag ≠ none → ∃ handle suffix, Token.tag handle suffix ∈ ts

theorem tagged_none : Tagged ts none := fun h => absurd rfl h

/-- A node that is put together from some tokens. -/
inductive Node.Composed (ts : List Token) : Node → Prop where
  | scalar {text : String} {plain : Bool} {tag : Option String} (h : Token.scalar text plain ∈ ts)
      (htag : Tagged ts tag) : Composed ts (.scalar (scalarKind text plain tag) text)
  | bare {tag : Option String} (htag : Tagged ts tag) : Composed ts (.scalar (kindOr .null tag) "")
  | sequence {items : List Node} {tag : Option String} (h : ∀ n ∈ items, Composed ts n)
      (htag : Tagged ts tag) : Composed ts (.sequence (kindOr .sequence tag) items)
  | mapping {entries : List (Node × Node)} {tag : Option String} (hkeys : ∀ e ∈ entries, Composed ts e.1)
      (hvalues : ∀ e ∈ entries, Composed ts e.2) (htag : Tagged ts tag) :
      Composed ts (.mapping (kindOr .mapping tag) entries)
  | anchored {n : Node} (anchor : String) (h : Composed ts n) : Composed ts (n.anchored anchor)

namespace Node

theorem composed_empty : empty.Composed ts := Composed.bare tagged_none

/-- All of some nodes are put together from the tokens. -/
def ComposedItems (ts : List Token) (items : List Node) : Prop := ∀ n ∈ items, n.Composed ts

/-- All keys and values of some entries are put together from the tokens. -/
def ComposedEntries (ts : List Token) (entries : List (Node × Node)) : Prop :=
  ∀ e ∈ entries, e.1.Composed ts ∧ e.2.Composed ts

theorem ComposedItems.nil : ComposedItems ts [] := fun _ h => absurd h List.not_mem_nil

theorem ComposedItems.cons {n : Node} {items : List Node} (h : n.Composed ts)
    (hitems : ComposedItems ts items) : ComposedItems ts (n :: items) :=
  List.forall_mem_cons.mpr ⟨h, hitems⟩

theorem ComposedEntries.nil : ComposedEntries ts [] := fun _ h => absurd h List.not_mem_nil

theorem ComposedEntries.cons {k v : Node} {entries : List (Node × Node)} (hk : k.Composed ts)
    (hv : v.Composed ts) (hentries : ComposedEntries ts entries) :
    ComposedEntries ts ((k, v) :: entries) :=
  List.forall_mem_cons.mpr ⟨⟨hk, hv⟩, hentries⟩

theorem ComposedEntries.mapping {entries : List (Node × Node)} {tag : Option String}
    (h : ComposedEntries ts entries) (htag : Tagged ts tag) :
    Composed ts (.mapping (kindOr .mapping tag) entries) :=
  .mapping (fun e he => (h e he).1) (fun e he => (h e he).2) htag

end Node

open DomainGen.Yaml.Node

/-! ## 2. Readings that put nodes together -/

/-- Tokens are left, and anchors have nodes of the tokens. -/
structure Composer.Over (ts : List Token) (c : Composer) : Prop where
  tokens : ∀ t ∈ c.tokens, t ∈ ts
  anchors : ∀ a n, (a, some n) ∈ c.anchors → n.Composed ts

/-- Why the tokens are no document. -/
def Undocumented (ts : List Token) (e : ReadError) : Prop :=
  e = .malformed ∨ Token.broken e ∈ ts

/-- A reading that gives something of a kind, or stops because the tokens are no document. -/
def Composes (ts : List Token) {α : Type} (P : α → Prop) (x : Reading α) : Prop :=
  ∀ c : Composer, c.Over ts → Yields (fun r => P r.1 ∧ r.2.Over ts) (Undocumented ts) (x c)

namespace Composes

variable {α β : Type} {P : α → Prop} {Q : β → Prop}

theorem pure {a : α} (h : P a) : Composes ts P (pure a) := fun _ hc => .ok ⟨h, hc⟩

theorem bind {x : Reading α} {f : α → Reading β} (hx : Composes ts P x)
    (hf : ∀ a, P a → Composes ts Q (f a)) : Composes ts Q (x >>= f) :=
  fun c hc => (hx c hc).bind fun r hr => hf r.1 hr.1 r.2 hr.2

theorem ite {b : Prop} [Decidable b] {x y : Reading α} (hx : b → Composes ts P x)
    (hy : ¬ b → Composes ts P y) : Composes ts P (if b then x else y) := by
  by_cases h : b
  · rw [if_pos h]
    exact hx h
  · rw [if_neg h]
    exact hy h

theorem malformed : Composes ts P (throw .malformed) := fun _ _ => .error (.inl rfl)

end Composes

/-! ## 3. Tokens, anchors and tags -/

section Rules

open Composes

variable {α : Type} {P : α → Prop}

theorem composes_stuck : Composes ts P (stuck : Reading α) := by
  intro c hc
  refine .error ?_
  unfold problem
  split
  · rename_i e rest htokens
    exact .inr (hc.tokens _ (htokens ▸ List.mem_cons_self))
  · exact .inl rfl

theorem composes_get : Composes ts (fun c => c.Over ts) get := fun _ hc => .ok ⟨hc, hc⟩

theorem composes_modify {f : Composer → Composer} (h : ∀ c : Composer, c.Over ts → (f c).Over ts) :
    Composes ts (fun _ => True) (modify f) := fun c hc => .ok ⟨trivial, h c hc⟩

theorem composes_next? : Composes ts (fun t => ∀ u, t = some u → u ∈ ts) next? :=
  composes_get.bind fun _ hc => pure fun u hu => hc.tokens u (List.mem_of_head? hu)

theorem composes_drop : Composes ts (fun _ => True) drop :=
  composes_modify fun _ hc => ⟨fun t ht => hc.tokens t (List.mem_of_mem_drop ht), hc.anchors⟩

theorem composes_dropIf (t : Token) : Composes ts (fun _ => True) (dropIf t) :=
  composes_next?.bind fun _ _ =>
    ite (fun _ => composes_drop.bind fun _ _ => pure trivial) fun _ => pure trivial

theorem composes_nextIsAmong (us : List Token) :
    Composes ts (fun _ => True) (nextIsAmong us) := by
  refine composes_next?.bind fun t _ => ?_
  cases t with
  | none => exact pure trivial
  | some t => exact pure trivial

theorem composes_reserve (anchor : Option String) :
    Composes ts (fun _ => True) (reserve anchor) := by
  cases anchor with
  | none => exact pure trivial
  | some a =>
      refine composes_get.bind fun _ _ =>
        ite (fun _ => composes_stuck) fun _ => composes_modify fun c hc => ?_
      refine ⟨hc.tokens, fun a' n hn => ?_⟩
      rcases List.mem_cons.mp hn with heq | hn
      · cases heq
      · exact hc.anchors a' n hn

theorem composes_name {anchor : Option String} {n : Node} (h : n.Composed ts) :
    Composes ts (fun n => n.Composed ts) (name anchor n) := by
  cases anchor with
  | none => exact pure h
  | some a =>
      refine (composes_modify fun c hc => ?_).bind fun _ _ => pure (.anchored a h)
      refine ⟨hc.tokens, fun a' n' hn => ?_⟩
      rcases List.mem_cons.mp hn with heq | hn
      · cases heq
        exact .anchored _ h
      · exact hc.anchors a' n' hn

theorem composes_named (anchor : String) : Composes ts (fun n => n.Composed ts) (named anchor) := by
  refine composes_get.bind fun c hc => ?_
  split
  · rename_i n hn
    obtain ⟨before, after, heq, _⟩ := List.lookup_eq_some_iff.mp hn
    refine pure (hc.anchors anchor n ?_)
    rw [heq]
    exact List.mem_append_right _ List.mem_cons_self
  · exact malformed

/-- The tag before a node is one of the tokens. -/
theorem composes_properties : Composes ts
    (fun p => p.1 ≠ none → ∃ handle suffix, Token.tag handle suffix ∈ ts) properties := by
  refine composes_next?.bind fun t ht => ?_
  split
  · refine composes_drop.bind fun _ _ => composes_next?.bind fun u hu => ?_
    split
    · exact composes_drop.bind fun _ _ => pure fun _ => ⟨_, _, hu _ rfl⟩
    · exact pure fun h => absurd rfl h
  · refine composes_drop.bind fun _ _ => composes_next?.bind fun u hu => ?_
    split
    · exact composes_drop.bind fun _ _ => pure fun _ => ⟨_, _, ht _ rfl⟩
    · exact pure fun _ => ⟨_, _, ht _ rfl⟩
  · exact pure fun h => absurd rfl h

theorem composes_fullTag {tag : Option (Option String × String)}
    (h : tag ≠ none → ∃ handle suffix, Token.tag handle suffix ∈ ts) :
    Composes ts (Tagged ts) (fullTag tag) := by
  unfold fullTag
  split
  · exact pure tagged_none
  · exact pure fun _ => h (Option.some_ne_none _)
  · refine composes_get.bind fun c _ => ?_
    split
    · exact pure fun _ => h (Option.some_ne_none _)
    · exact composes_stuck

/-- What follows in a collection in brackets, after a comma if it is not the first. -/
theorem composes_afterComma {f : Unit → Reading α} (first : Bool)
    (hf : ∀ u, Composes ts P (f u)) :
    Composes ts P (if (!first) = true then do
        let found ← dropIf .flowEntry
        if (!found) = true then do
          let u ← stuck
          f u
        else f ()
      else f ()) := by
  refine ite (fun _ => (composes_dropIf _).bind fun found _ => ?_) fun _ => hf ()
  refine ite (fun _ => ?_) fun _ => hf ()
  exact (composes_stuck (P := fun _ => True)).bind fun u _ => hf u

end Rules

/-! ## 4. Nodes -/

/-- All readings of nodes, items and entries, up to some number of steps, put them together from the
    tokens. -/
structure NodesCompose (ts : List Token) (fuel : Nat) : Prop where
  node : ∀ at', Composes ts (fun n => n.Composed ts) (node at' fuel)
  nodeOrEmpty : ∀ at' ends, Composes ts (fun n => n.Composed ts) (nodeOrEmpty at' ends fuel)
  blockItems : Composes ts (ComposedItems ts) (blockItems fuel)
  indentlessItems : Composes ts (ComposedItems ts) (indentlessItems fuel)
  blockEntries : Composes ts (ComposedEntries ts) (blockEntries fuel)
  flowItems : ∀ first, Composes ts (ComposedItems ts) (flowItems first fuel)
  flowEntries : ∀ first, Composes ts (ComposedEntries ts) (flowEntries first fuel)

section Step

open Composes

variable {fuel : Nat} (ih : NodesCompose ts fuel)
include ih

theorem composes_node (at' : Position) :
    Composes ts (fun n => n.Composed ts) (node at' (fuel + 1)) := by
  unfold node
  refine composes_next?.bind fun t _ => ?_
  split
  · exact composes_drop.bind fun _ _ => composes_named _
  · refine composes_properties.bind fun p hp => (composes_fullTag hp).bind fun tag htag => ?_
    refine (composes_reserve p.2).bind fun _ _ => composes_next?.bind fun t ht => ?_
    refine ite (fun _ => ?_) fun _ => ?_
    · exact ih.indentlessItems.bind fun items hitems => composes_name (.sequence hitems htag)
    · split
      · exact composes_drop.bind fun _ _ => composes_name (.scalar (ht _ rfl) htag)
      · exact composes_drop.bind fun _ _ => (ih.flowItems true).bind fun items hitems =>
          composes_name (.sequence hitems htag)
      · exact composes_drop.bind fun _ _ => (ih.flowEntries true).bind fun entries hentries =>
          composes_name (hentries.mapping htag)
      · exact ite (fun _ => composes_stuck) fun _ => composes_drop.bind fun _ _ =>
          ih.blockItems.bind fun items hitems => composes_name (.sequence hitems htag)
      · exact ite (fun _ => composes_stuck) fun _ => composes_drop.bind fun _ _ =>
          ih.blockEntries.bind fun entries hentries => composes_name (hentries.mapping htag)
      · exact ite (fun _ => composes_name (.bare htag)) fun _ => composes_stuck

theorem composes_nodeOrEmpty (at' : Position) (ends : List Token) :
    Composes ts (fun n => n.Composed ts) (nodeOrEmpty at' ends (fuel + 1)) := by
  unfold nodeOrEmpty
  exact (composes_nextIsAmong ends).bind fun _ _ =>
    ite (fun _ => pure composed_empty) fun _ => ih.node at'

theorem composes_blockItems : Composes ts (ComposedItems ts) (blockItems (fuel + 1)) := by
  unfold blockItems
  refine (composes_dropIf _).bind fun _ _ => ite (fun _ => ?_) fun _ => ?_
  · exact (ih.nodeOrEmpty _ _).bind fun n hn => ih.blockItems.bind fun items hitems =>
      pure (.cons hn hitems)
  · exact (composes_dropIf _).bind fun _ _ => ite (fun _ => pure .nil) fun _ => composes_stuck

theorem composes_indentlessItems :
    Composes ts (ComposedItems ts) (indentlessItems (fuel + 1)) := by
  unfold indentlessItems
  refine (composes_dropIf _).bind fun _ _ => ite (fun _ => ?_) fun _ => pure .nil
  exact (ih.nodeOrEmpty _ _).bind fun n hn => ih.indentlessItems.bind fun items hitems =>
    pure (.cons hn hitems)

/-- The value after a key, or nothing if its place is empty. -/
theorem composes_value {α : Type} {P : α → Prop} {at' : Position} {ends : List Token}
    {f : Node → Reading α} (hf : ∀ n, n.Composed ts → Composes ts P (f n)) (there : Bool) :
    Composes ts P (if there = true then Composer.nodeOrEmpty at' ends fuel >>= f
      else (Pure.pure Node.empty : Reading Node) >>= f) :=
  ite (fun _ => (ih.nodeOrEmpty _ _).bind hf) fun _ => (pure composed_empty).bind hf

theorem composes_blockEntries : Composes ts (ComposedEntries ts) (blockEntries (fuel + 1)) := by
  unfold blockEntries
  refine (composes_dropIf _).bind fun _ _ => ite (fun _ => ?_) fun _ => ?_
  · refine (ih.nodeOrEmpty _ _).bind fun k hk => (composes_dropIf _).bind fun there _ => ?_
    exact composes_value ih (fun v hv => ih.blockEntries.bind fun entries hentries =>
      pure (.cons hk hv hentries)) there
  · exact (composes_dropIf _).bind fun _ _ => ite (fun _ => pure .nil) fun _ => composes_stuck

theorem composes_flowItems (first : Bool) :
    Composes ts (ComposedItems ts) (flowItems first (fuel + 1)) := by
  unfold flowItems
  refine (composes_dropIf _).bind fun _ _ => ite (fun _ => pure .nil) fun _ => ?_
  refine composes_afterComma first fun _ => ?_
  refine (composes_dropIf _).bind fun _ _ => ite (fun _ => ?_) fun _ => ?_
  · refine (ih.nodeOrEmpty _ _).bind fun k hk => (composes_dropIf _).bind fun there _ => ?_
    refine composes_value ih (fun v hv => (ih.flowItems false).bind fun items hitems => ?_) there
    have hpair : ComposedEntries ts [(k, v)] := .cons hk hv .nil
    exact pure (.cons (hpair.mapping tagged_none) hitems)
  · refine (composes_dropIf _).bind fun _ _ => ite (fun _ => pure .nil) fun _ => ?_
    exact (ih.node _).bind fun n hn => (ih.flowItems false).bind fun items hitems =>
      pure (.cons hn hitems)

theorem composes_flowEntries (first : Bool) :
    Composes ts (ComposedEntries ts) (flowEntries first (fuel + 1)) := by
  unfold flowEntries
  refine (composes_dropIf _).bind fun _ _ => ite (fun _ => pure .nil) fun _ => ?_
  refine composes_afterComma first fun _ => ?_
  refine (composes_dropIf _).bind fun _ _ => ite (fun _ => ?_) fun _ => ?_
  · refine (ih.nodeOrEmpty _ _).bind fun k hk => (composes_dropIf _).bind fun there _ => ?_
    exact composes_value ih (fun v hv => (ih.flowEntries false).bind fun entries hentries =>
      pure (.cons hk hv hentries)) there
  · refine (composes_dropIf _).bind fun _ _ => ite (fun _ => pure .nil) fun _ => ?_
    exact (ih.node _).bind fun k hk => (ih.flowEntries false).bind fun entries hentries =>
      pure (.cons hk composed_empty hentries)

end Step

/-- **Whatever is read as a node is put together from the tokens.** -/
theorem nodesCompose (ts : List Token) : ∀ fuel, NodesCompose ts fuel
  | 0 => ⟨fun _ => .malformed, fun _ _ => .malformed, .malformed, .malformed, .malformed,
      fun _ => .malformed, fun _ => .malformed⟩
  | fuel + 1 =>
    have ih := nodesCompose ts fuel
    ⟨composes_node ih, composes_nodeOrEmpty ih, composes_blockItems ih, composes_indentlessItems ih,
      composes_blockEntries ih, composes_flowItems ih, composes_flowEntries ih⟩

/-! ## 5. Documents -/

section Documents

open Composes

theorem composes_directives : ∀ (fuel : Nat) (versioned : Bool),
    Composes ts (fun _ => True) (directives fuel versioned)
  | 0, _ => .malformed
  | fuel + 1, versioned => by
      unfold directives
      refine composes_next?.bind fun t _ => ?_
      split
      · refine composes_drop.bind fun _ _ => ?_
        split
        · exact ite (fun _ => composes_stuck) fun _ => composes_directives fuel true
        · refine composes_get.bind fun _ _ => ite (fun _ => composes_stuck) fun _ => ?_
          refine bind (composes_modify fun c hc => ?_) fun _ _ => composes_directives fuel versioned
          exact ⟨hc.tokens, hc.anchors⟩
        · exact composes_directives fuel versioned
      · refine composes_modify fun c hc => ?_
        exact ⟨hc.tokens, hc.anchors⟩

theorem composes_dropEnds : ∀ fuel : Nat, Composes ts (fun _ => True) (dropEnds fuel)
  | 0 => .malformed
  | fuel + 1 => by
      unfold dropEnds
      exact (composes_dropIf _).bind fun _ _ =>
        ite (fun _ => composes_dropEnds fuel) fun _ => pure trivial

/-- The content of a document, if it has any. -/
def ComposedContent (ts : List Token) (content : Option Node) : Prop :=
  ∀ n, content = some n → n.Composed ts

theorem composedContent_none : ComposedContent ts none := fun _ h => nomatch h

theorem composedContent_some {n : Node} (h : n.Composed ts) : ComposedContent ts (some n) := by
  rintro m hm
  cases hm
  exact h

/-- **What is read as a document is put together from the tokens.** -/
theorem composes_document (fuel : Nat) : Composes ts (ComposedContent ts) (document fuel) := by
  have hnode : Composes ts (ComposedContent ts) (some <$> node .inBlock fuel) := by
    rw [map_eq_pure_bind]
    exact ((nodesCompose ts fuel).node _).bind fun n hn => .pure (composedContent_some hn)
  unfold document
  refine composes_next?.bind fun t _ => ?_
  -- the three places where branches of the reading meet again
  extract_lets finish afterMark start
  have hfinish (content : Option Node) (h : ComposedContent ts content) :
      Composes ts (ComposedContent ts) (finish content) := by
    refine (composes_dropEnds fuel).bind fun _ _ => composes_next?.bind fun t _ => ?_
    refine ite (fun _ => ?_) fun _ => .pure h
    exact (composes_stuck (P := fun _ => True)).bind fun _ _ => .pure h
  have hempty : Composes ts (ComposedContent ts) (Pure.pure (some .empty) >>= finish) :=
    (Composes.pure (composedContent_some composed_empty)).bind hfinish
  have hafter (u : Unit) : Composes ts (ComposedContent ts) (afterMark u) := by
    refine composes_next?.bind fun t _ => ?_
    split
    · exact hempty
    · exact hempty
    · exact hempty
    · exact hempty
    · exact hnode.bind hfinish
  have hstart (explicit : Bool) : Composes ts (ComposedContent ts) (start explicit) := by
    refine ite (fun _ => ?_) fun _ => ?_
    · refine (composes_directives fuel false).bind fun _ _ => (composes_dropIf _).bind fun _ _ => ?_
      refine ite (fun _ => ?_) fun _ => hafter ()
      exact (composes_stuck (P := fun _ => True)).bind fun u _ => hafter u
    · refine bind (composes_modify fun c hc => ?_) fun _ _ => composes_next?.bind fun t _ => ?_
      · exact ⟨hc.tokens, hc.anchors⟩
      · split
        · exact (Composes.pure composedContent_none).bind hfinish
        · exact hnode.bind hfinish
  split
  · exact (Composes.pure (P := fun _ => True) trivial).bind fun explicit _ => hstart explicit
  · exact (Composes.pure (P := fun _ => True) trivial).bind fun explicit _ => hstart explicit
  · exact (Composes.pure (P := fun _ => True) trivial).bind fun explicit _ => hstart explicit

end Documents

/-- **The node of a document is put together from its tokens.** -/
theorem composed_ofTokens? (ts : List Token) :
    Yields (ComposedContent ts) (Undocumented ts) (Node.ofTokens? ts) := by
  have hover : Over ts ⟨ts, [], []⟩ :=
    ⟨fun _ ht => ht, fun _ _ hn => absurd hn List.not_mem_nil⟩
  exact (composes_document (4 * ts.length + 8) _ hover).map fun _ hr => hr.1

end DomainGen.Yaml
