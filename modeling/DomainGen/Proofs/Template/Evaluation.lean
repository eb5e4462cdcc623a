import DomainGen.Proofs.Data.Overriding
import DomainGen.Proofs.Except
import DomainGen.Template.Rendering
import Mathlib.Data.List.Forall2

/-!
# Templates on plain data

Templates are given plain data. A name in a template finds the entry of the context with that name,
and a member of a mapping is its entry with that name unless all mappings have such a member.

* `lookup_contextNames`, `member_ofData` : **looking things up in a template is looking them up in the
  data**;
* `renderParts_cons`, `renderParts_append_ok` : the text of some parts is put together of theirs;
* `render_loop` : a loop gives the texts of its body for all items, one after the other.
-/

namespace DomainGen.Template

/-! ## 1. Entries -/

namespace Value

/-- A key finds a text exactly where the plain key does. -/
theorem sameItem_ofData (k : Data) (name : String) :
    (ofData k).sameItem (ofText name) = k.sameKey (.text name) := by
  cases k <;> simp [ofData, sameItem, sameNan, equal, Data.sameKey, Data.sameNan, Data.equal,
    Data.equalScalar, Data.integer?]

/-- Looking up an entry of plain data. -/
theorem lookup?_ofEntries (name : String) : ∀ es : Entries,
    lookup? (ofEntries es) (ofText name) = (Entries.get? es name).map ofData
  | [] => rfl
  | (k, v) :: es => by
      have ih : lookup? (ofEntries es) (ofText name) = (Entries.get? es name).map ofData :=
        lookup?_ofEntries name es
      unfold lookup? Entries.get? Entries.lookup? at ih ⊢
      unfold ofEntries
      rw [List.find?_cons, List.find?_cons, sameItem_ofData]
      cases k.sameKey (.text name) with
      | true => rfl
      | false => exact ih

/-- The values of some data, one by one. -/
theorem ofItems_eq_map : ∀ xs : List Data, ofItems xs = xs.map ofData
  | [] => rfl
  | x :: xs => congrArg (ofData x :: ·) (ofItems_eq_map xs)

/-- The values of some entries, one by one. -/
theorem ofEntries_eq_map : ∀ es : Entries, ofEntries es = es.map fun e => (ofData e.1, ofData e.2)
  | [] => rfl
  | e :: es => congrArg ((ofData e.1, ofData e.2) :: ·) (ofEntries_eq_map es)

/-- No mapping has a member with the name of its own. -/
def IsEntryName (name : String) : Prop := name ∉ commonMembers ++ mappingMembers

/-- The words of lines of which each is given by its characters. -/
theorem words_eq {ls : List String} {cs : List (List Char)}
    (h : List.Forall₂ (fun l c => l = String.ofList c) ls cs) :
    words ls = (cs.flatMap (Text.splitAt ' ')).map String.ofList := by
  unfold words
  induction h with
  | nil => rfl
  | cons hl _ ih =>
      rw [List.flatMap_cons, ih, List.flatMap_cons, List.map_append, hl, String.toList_ofList]

/-- The members of mappings, which are told from other names by their characters. -/
theorem exists_members : ∃ cs : List (List Char), commonMembers ++ mappingMembers =
      cs.map String.ofList ∧
    (∀ s ∈ ["className", "fileName", "command", "event"], s.toList ∉ cs) ∧
    ∀ s ∈ ["__class__", "__hash__", "items"], s.toList ∈ cs := by
  have hcommon : commonMembers = _ := words_eq (.cons rfl (.cons rfl (.cons rfl .nil)))
  have hmapping : mappingMembers = _ := words_eq (.cons rfl (.cons rfl (.cons rfl .nil)))
  refine ⟨_, (congrArg₂ (· ++ ·) hcommon hmapping).trans List.map_append.symm, ?_, ?_⟩
  · decide +kernel
  · decide +kernel

/-- The names under which the built-in templates look for entries of mappings. -/
theorem isEntryName_of_mem {name : String}
    (h : name ∈ ["className", "fileName", "command", "event"]) : IsEntryName name := by
  obtain ⟨cs, hcs, hfree, _⟩ := exists_members
  unfold IsEntryName
  rw [hcs, List.mem_map]
  rintro ⟨c, hc, rfl⟩
  refine hfree _ h ?_
  rwa [String.toList_ofList]

theorem mem_members {name : String} (h : name ∈ ["__class__", "__hash__", "items"]) :
    name ∈ commonMembers ++ mappingMembers := by
  obtain ⟨cs, hcs, _, hmem⟩ := exists_members
  rw [hcs]
  exact List.mem_map.mpr ⟨name.toList, hmem name h, String.ofList_toList⟩

theorem ownMember?_mapping {name : String} (h : IsEntryName name) (es : List (Value × Value)) :
    (Value.mapping es).ownMember? name = none := by
  have hproperty : (Value.mapping es).property? name = none := by
    unfold property?
    split
    · exact absurd (mem_members (by decide)) h
    · exact absurd (mem_members (by decide)) h
    · rfl
  have hmember : (mappingMembers.contains name || commonMembers.contains name) = false := by
    rw [← Bool.not_eq_true, Bool.or_eq_true, List.contains_iff_mem, List.contains_iff_mem,
      or_comm, ← List.mem_append]
    exact h
  unfold ownMember?
  rw [hproperty]
  show (if (mappingMembers.contains name || commonMembers.contains name) = true then _ else _) = _
  rw [hmember]
  rfl

/-- **A member of a mapping is its entry.** -/
theorem member_ofData {c : Entries} {name : String} {v : Data} (hname : IsEntryName name)
    (h : c.get? name = some v) : (ofData (.mapping c)).member name = .ok (ofData v) := by
  have hfound : lookup? (ofEntries c) (ofText name) = some (ofData v) := by
    rw [lookup?_ofEntries, h]
    rfl
  show (Value.mapping (ofEntries c)).member name = _
  unfold member
  rw [ownMember?_mapping hname, show (Value.mapping (ofEntries c)).pastFault? name = none from rfl]
  dsimp only
  rw [hfound]

/-- A member of the value's kind comes first. -/
theorem member_of_ownMember {v x : Value} {name : String} (hpast : v.pastFault? name = none)
    (hown : v.ownMember? name = some x) : v.member name = .ok x := by
  unfold member
  rw [hpast, hown]

/-- Every mapping has the member that gives its entries. -/
theorem member_items (es : List (Value × Value)) :
    (Value.mapping es).member "items" = .ok (.method (.mapping es) "items") := by
  have hmember : (mappingMembers.contains "items" || commonMembers.contains "items") = true := by
    rw [Bool.or_eq_true, List.contains_iff_mem, List.contains_iff_mem, or_comm, ← List.mem_append]
    exact mem_members (by decide)
  have hproperty : (Value.mapping es).property? "items" = none := rfl
  have hown : (Value.mapping es).ownMember? "items" = some (.method (.mapping es) "items") := by
    unfold ownMember?
    rw [hproperty]
    exact if_pos hmember
  exact member_of_ownMember rfl hown

end Value

/-- An item names a class and a file. -/
def Lists (d : Data) (x : String × String) : Prop :=
  ∃ c : Entries, d = .mapping c ∧ c.get? "className" = some (.text x.1) ∧
    c.get? "fileName" = some (.text x.2)

/-- **A name finds the entry of the context.** -/
theorem lookup_contextNames (name : String) : ∀ {c : Entries} {names : List (String × Value)},
    contextNames c = .ok names → names.lookup name = (c.get? name).map Value.ofData
  | [], names, h => by
      cases h
      rfl
  | (k, v) :: rest, names, h => by
      cases k with
      | text key =>
          unfold contextNames at h
          by_cases hself : (key == "self") = true
          · rw [if_pos hself] at h
            cases h
          · rw [if_neg hself] at h
            obtain ⟨more, hmore, heq⟩ := except_bind_eq_ok.mp h
            cases heq
            have ih := lookup_contextNames name hmore
            unfold Entries.get? Entries.lookup? at ih ⊢
            rw [List.lookup_cons, List.find?_cons, Data.sameKey_text, Bool.beq_comm]
            cases key == name with
            | true => rfl
            | false => exact ih
      | _ => cases h

/-! ## 2. Expressions -/

variable {s : Scope}

theorem eval_name {name : String} {v : Value} (h : s.names.lookup name = some v) :
    (Expr.name name).eval s = .ok v := by
  rw [Expr.eval, Scope.lookup, h]

/-- A member of plain data is its entry. -/
theorem eval_member {e : Expr} {name : String} {c : Entries} {v : Data}
    (he : e.eval s = .ok (.ofData (.mapping c))) (hname : Value.IsEntryName name)
    (h : c.get? name = some v) : (Expr.member e name).eval s = .ok (.ofData v) := by
  rw [Expr.eval, he]
  dsimp only [bind, Except.bind]
  exact Value.member_ofData hname h

/-- A file name without its extension. -/
theorem eval_stripExtension {e : Expr} {name : String} (h : e.eval s = .ok (.ofText name)) :
    (Expr.filter "strip_extension" e [] []).eval s = .ok (.ofText (stripExtension name)) := by
  rw [Expr.eval, h]
  rfl

/-! ## 3. Parts -/

/-- The text of a part and of those after it. -/
theorem renderParts_cons {p : Part} {ps : List Part} {text more : String}
    (hp : p.render s = .ok text) (hps : renderParts s ps = .ok more) :
    renderParts s (p :: ps) = .ok (text ++ more) := by
  unfold renderParts
  rw [hp, hps]
  rfl

/-- Parts that are rendered are rendered from the first on. -/
theorem renderParts_append_ok : ∀ {ps qs : List Part} {text : String},
    renderParts s (ps ++ qs) = .ok text →
      ∃ first rest, renderParts s ps = .ok first ∧ renderParts s qs = .ok rest ∧
        text = first ++ rest
  | [], qs, text, h => ⟨"", text, rfl, h, String.empty_append.symm⟩
  | p :: ps, qs, text, h => by
      rw [List.cons_append] at h
      unfold renderParts at h
      obtain ⟨own, hown, h⟩ := except_bind_eq_ok.mp h
      obtain ⟨others, hothers, heq⟩ := except_bind_eq_ok.mp h
      obtain ⟨first, rest, hfirst, hrest, rfl⟩ := renderParts_append_ok hothers
      cases heq
      exact ⟨own ++ first, rest, renderParts_cons hown hfirst, hrest, String.append_assoc.symm⟩

/-- An expression that denotes a text shows as the text. -/
theorem render_output {e : Expr} {text : String} (hs : s.escaping = false)
    (h : e.eval s = .ok (.ofText text)) : (Part.output e).render s = .ok text := by
  unfold Part.render
  rw [h, hs]
  rfl

/-- What holds of items at any place holds of them at theirs. -/
theorem forall₂_zipIdx {α β : Type} {P : α → Nat → β → Prop} {xs : List α} {ys : List β}
    (h : List.Forall₂ (fun x y => ∀ i, P x i y) xs ys) :
    ∀ k, List.Forall₂ (fun x y => P x.1 x.2 y) (xs.zipIdx k) ys := by
  induction h with
  | nil => exact fun _ => .nil
  | cons hx _ ih => exact fun k => .cons (hx k) (ih (k + 1))

/-- **A loop gives the texts of its body for all items**, one after the other. -/
theorem render_loop (again : Bool) {target : Target} {through : Expr} {body : List Part} {v : Value}
    {xs : List Value} {texts : List String} (hthrough : through.eval s = .ok v)
    (hitems : v.items = .ok xs) (hbody : List.Forall₂ (fun x text => ∀ i, ∃ names,
      target.bind x = .ok names ∧
        renderParts (s.push (names ++ [("loop", .loop xs i none)])) body = .ok text) xs texts) :
    (Part.loop target through none again body []).render s = .ok (String.join texts) := by
  unfold Part.render
  rw [hthrough]
  dsimp only [bind, Except.bind]
  rw [hitems]
  dsimp only
  rw [mapM_eq_ok.mpr ((forall₂_zipIdx hbody 0).imp fun x text h => ?_)]
  · cases texts <;> rfl
  · obtain ⟨names, hnames, htext⟩ := h
    rw [hnames]
    exact htext

end DomainGen.Template
