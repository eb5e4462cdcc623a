import DomainGen.Config.Resolution
import DomainGen.Proofs.Generation.Answers
import DomainGen.Proofs.Generation.Contexts
import DomainGen.Proofs.Template.BuiltinNeeds
import DomainGen.Proofs.Template.Installed

/-!
# Walks with a built-in set

A walk gives the templates of a built-in set what they need, but for what the fields of the items bring.
A field is given to a template as a name, so there is one that cannot be given, and the templates show
some of the fields, so these need texts.

* `ModelItem.WellShaped` : the fields have keys that are texts, and properties are a mapping;
* `ModelItem.Renderable` : no field has the name that cannot be given, and the fields that are shown
  have texts;
* `item_answer_iff`, `index_answered` : **what a walk asks of the templates of a set is given exactly for
  items that are renderable, and always for indexes**;
* `generate_builtin` : a walk with the default configuration of a set ends with an error of a template
  exactly if it reaches an item that is not renderable.
-/

namespace DomainGen

open Template

/-! ## 1. Fields -/

namespace ModelItem

/-- What the item is: an aggregate, or an entity of some kind. -/
def kind : ModelItem → Option Kind
  | .aggregate _ => none
  | .entity _ x => some x.kind

/-- The fields of the item, of which the last one with a key counts. -/
def fields : ModelItem → Entries
  | .aggregate a => .ofList a.fields
  | .entity _ x => .ofList x.fields

/-- The keys of the fields are texts, and properties are a mapping or nothing at all. -/
structure WellShaped (item : ModelItem) : Prop where
  keys : ∀ x ∈ item.fields, ∃ k, x.1 = .text k
  properties : ∀ v, item.fields.get? "properties" = some v → v = .null ∨ ∃ es, v = .mapping es

/-- No field is called `self`, and the fields that the template of the item shows have texts. -/
structure Renderable (typed : Bool) (item : ModelItem) : Prop where
  noSelf : item.fields.get? "self" = none
  shown : ∀ n ∈ itemNeeds typed item.kind, n.MetBy item.fields

end ModelItem

/-! ## 2. Contexts of items -/

section Carries

variable {names : Names} {defaults : List (String × Data)} {fields c : Entries}
  {more : List String}

/-- Under all other keys there are the fields. -/
theorem Carries.get?_eq (h : Carries names defaults fields more c) {s : String}
    (hs : s ∉ namedKeys defaults ++ more) : c.get? s = (Entries.ofList fields).get? s := by
  rw [← Entries.get?_besides hs, h.others, Entries.get?_besides hs]

/-- What is given of an item can be given exactly if no field is called `self`. -/
theorem Carries.hasNames_iff (h : Carries names defaults fields more c)
    (hself : "self" ∉ namedKeys defaults ++ more)
    (hkeys : ∀ x ∈ Entries.ofList fields, ∃ k, x.1 = .text k) :
    HasNames c ↔ (Entries.ofList fields).get? "self" = none := by
  rw [← h.get?_eq hself, Entries.get?_eq_none_iff]
  constructor
  · rintro hnames x hx hkey
    obtain ⟨k, hk, hne⟩ := hnames x hx
    exact hne (Data.text.inj (hk.symm.trans hkey))
  · intro hfree x hx
    obtain ⟨k, hk⟩ : ∃ k, x.1 = .text k := by
      cases hamong : x.1.isAmong (namedKeys defaults ++ more) with
      | true =>
          cases hkey : x.1 with
          | text k => exact ⟨k, rfl⟩
          | _ =>
              rw [hkey] at hamong
              cases hamong
      | false =>
          -- the entry is none of the item's own, so it is a field
          have hother : x ∈ c.besides (namedKeys defaults ++ more) :=
            List.mem_filter.mpr ⟨hx, by rw [hamong]; rfl⟩
          rw [h.others] at hother
          exact hkeys x (List.mem_filter.mp hother).1
    exact ⟨k, hk, fun heq => hfree x hx (heq ▸ hk)⟩

/-- Such entries have what the template of an item needs exactly if the fields have. -/
theorem Carries.needs_iff (h : Carries names defaults fields more c)
    (hfree : ∀ x ∈ "self" :: shownFields, x ∉ namedKeys defaults ++ more)
    (hkeys : ∀ x ∈ Entries.ofList fields, ∃ k, x.1 = .text k) (typed : Bool) (kind : Option Kind) :
    (HasNames c ∧ ∀ n ∈ itemNeeds typed kind, n.MetBy c) ↔
      (Entries.ofList fields).get? "self" = none ∧
        ∀ n ∈ itemNeeds typed kind, n.MetBy (Entries.ofList fields) := by
  refine and_congr (h.hasNames_iff (hfree _ List.mem_cons_self) hkeys) ?_
  refine forall₂_congr fun n hn => Need.metBy_congr (h.get?_eq (hfree _ ?_))
  exact List.mem_cons_of_mem _ (about_itemNeeds typed kind n hn)

end Carries

namespace Generator

variable {g : Generator} {m : Model}

/-- A mapping with a class and a file is a record. -/
theorem isRecord_classAndFile {c : Entries} {className fileName : String}
    (hclass : c.get? "className" = some (.text className))
    (hfile : c.get? "fileName" = some (.text fileName)) :
    Shape.IsRecord ["className", "fileName"] (.ofData (.mapping c)) := by
  refine isRecord_ofData fun n hn => ?_
  rcases List.mem_cons.mp hn with rfl | hn
  · exact ⟨by decide, _, hclass⟩
  · rw [List.mem_singleton.mp hn]
    exact ⟨by decide, _, hfile⟩

/-- The entities of a kind are records by their keys, if there are any. -/
theorem isTable_of_describes {a : Aggregate} {c : Entries} (h : g.DescribesAggregate m a c)
    (kind : Kind) : Shape.Fits (.records ["className", "fileName"])
      (contextValue c kind.collection) := by
  by_cases hkind : kind ∈ a.collections.map (·.1)
  · obtain ⟨x, hx, rfl⟩ := List.mem_map.mp hkind
    obtain ⟨summaries, hfound, heach⟩ := h.summary.declared x hx
    refine Or.inl ⟨_, contextValue_of_get? hfound, fun e he => ?_⟩
    rw [Value.ofEntries_eq_map] at he
    obtain ⟨entry, hentry, rfl⟩ := List.mem_map.mp he
    obtain ⟨y, _, hkey, summary, hvalue, hsummary⟩ := heach.exists_of_mem hentry
    rw [hkey, hvalue]
    exact ⟨⟨_, rfl⟩, isRecord_classAndFile hsummary.className hsummary.fileName⟩
  · exact Or.inr (isTrue_contextValue_of_none (h.summary.undeclared kind hkind))

/-- **What is given of an aggregate has the shapes its template expects.** -/
theorem fitContext_aggregate {a : Aggregate} {c : Entries} (h : g.DescribesAggregate m a c) :
    aggregateShapes.FitContext c := by
  refine fitContext_of_forall (by decide) ?_
  simp only [aggregateShapes, List.forall_mem_cons]
  refine ⟨?_, ?_, ?_, isTable_of_describes h .command, isTable_of_describes h .event,
    fun _ hx => absurd hx List.not_mem_nil⟩
  · exact ⟨_, contextValue_of_get? h.summary.carries.className⟩
  · exact isSettled_contextValue c _
  · show Shape.IsRecord _ _
    rw [contextValue_of_get? h.kindPaths]
    refine isRecord_ofData fun n hn => ?_
    rcases List.mem_cons.mp hn with rfl | hn
    · exact ⟨by decide, _, rfl⟩
    · rw [List.mem_singleton.mp hn]
      exact ⟨by decide, _, rfl⟩

/-- **What is given of an entity has the shapes its template expects**, if its properties are a
    mapping. -/
theorem fitContext_entity {a : Aggregate} {x : Entity} {owner c : Entries}
    (ha : g.DescribesAggregate m a owner) (h : g.DescribesEntity x owner c)
    (hshape : (ModelItem.entity a x).WellShaped) : entityShapes.FitContext c := by
  refine fitContext_of_forall (by decide) ?_
  simp only [entityShapes, List.forall_mem_cons]
  refine ⟨?_, ?_, ?_, ?_, ?_, fun _ hx => absurd hx List.not_mem_nil⟩
  · exact ⟨_, contextValue_of_get? h.summary.className⟩
  · show Shape.IsRecord _ _
    rw [contextValue_of_get? h.aggregate]
    refine isRecord_ofData fun n hn => ?_
    rw [List.mem_singleton.mp hn]
    exact ⟨by decide, _, ha.summary.carries.className⟩
  · exact isSettled_contextValue c _
  · exact isSettled_contextValue c _
  · have hown : "properties" ∉ namedKeys x.defaults ++ ["aggregate"] := by
      show "properties" ∉ ["name", "kind", "className", "fileName", "aggregate"]
      decide
    have hfield : c.get? "properties" = (Entries.ofList x.fields).get? "properties" :=
      h.summary.get?_eq hown
    cases hp : (Entries.ofList x.fields).get? "properties" with
    | none => exact Or.inr (isTrue_contextValue_of_none (hfield.trans hp))
    | some v =>
        have hvalue := contextValue_of_get? (hfield.trans hp)
        rcases hshape.properties v hp with rfl | ⟨es, rfl⟩
        · exact Or.inr (hvalue ▸ rfl)
        · refine Or.inl ⟨_, hvalue, fun e he => ?_⟩
          rw [Value.ofEntries_eq_map] at he
          obtain ⟨entry, _, rfl⟩ := List.mem_map.mp he
          exact ⟨Value.isSettled_ofData _, Value.isSettled_ofData _⟩

/-- **What the template of an item is given has the shapes it expects, and has what it needs exactly if
    the item is renderable.** -/
theorem context_itemFile {document : Data} {source : Option String}
    (h : Model.ofDocument document source = .ok m) {item : ModelItem} (hitem : item ∈ m.items)
    (hshape : item.WellShaped) (typed : Bool) {c : Entries}
    (hc : (g.itemFile (.mapping (g.decorated m).context) item).context = c) :
    (itemShapes item.kind).FitContext c ∧
      ((HasNames c ∧ ∀ n ∈ itemNeeds typed item.kind, n.MetBy c) ↔ item.Renderable typed) := by
  rcases mem_items hitem with ⟨a, ha, rfl⟩ | ⟨a, ha, x, _, rfl⟩
  · have hdescribes : g.DescribesAggregate m a c := hc ▸ g.describesAggregate_context h ha
    have hfree : ∀ s ∈ "self" :: shownFields,
        s ∉ namedKeys a.defaults ++ (collectionKeys ++ ["kindPaths", "model"]) := by
      show ∀ s ∈ "self" :: shownFields,
        s ∉ ["name", "className", "fileName"] ++ (collectionKeys ++ ["kindPaths", "model"])
      decide
    refine ⟨fitContext_aggregate hdescribes, ?_⟩
    rw [hdescribes.summary.carries.needs_iff hfree hshape.keys]
    exact ⟨fun ⟨hself, hshown⟩ => ⟨hself, hshown⟩, fun hr => ⟨hr.noSelf, hr.shown⟩⟩
  · have howner := g.describesAggregate_context h ha
    have hdescribes : g.DescribesEntity x
        (g.aggregateContext (.mapping (g.decorated m).context) (g.decoratedAggregate a)) c := by
      rw [← hc]
      exact g.describesEntity_context x _
    have hfree : ∀ s ∈ "self" :: shownFields, s ∉ namedKeys x.defaults ++ ["aggregate"] := by
      show ∀ s ∈ "self" :: shownFields,
        s ∉ ["name", "kind", "className", "fileName"] ++ ["aggregate"]
      decide
    refine ⟨fitContext_entity howner hdescribes hshape, ?_⟩
    rw [Carries.needs_iff hdescribes.summary hfree hshape.keys]
    exact ⟨fun ⟨hself, hshown⟩ => ⟨hself, hshown⟩, fun hr => ⟨hr.noSelf, hr.shown⟩⟩

/-! ## 3. Contexts of indexes -/

/-- Fields none of which is called `self` can be given. -/
theorem hasNames_ofFields {fields : List (String × Data)} (h : "self" ∉ fields.map (·.1)) :
    HasNames (Entries.ofFields fields) := by
  intro x hx
  obtain ⟨field, hfield, rfl⟩ := List.mem_map.mp hx
  exact ⟨field.1, rfl, fun heq => h (heq ▸ List.mem_map_of_mem hfield)⟩

/-- Items with classes and files are rows. -/
theorem fitContext_rows {c : Entries} {items : List Data}
    (hitems : c.get? "items" = some (.list items)) (h : ∀ d ∈ items, ∃ x, Lists d x) :
    indexShapes.FitContext c := by
  refine fitContext_of_forall (by decide) ?_
  simp only [indexShapes, List.forall_mem_cons]
  refine ⟨⟨_, contextValue_of_get? hitems, fun v hv => ?_⟩, fun _ hx => absurd hx List.not_mem_nil⟩
  rw [Value.ofItems_eq_map] at hv
  obtain ⟨d, hd, rfl⟩ := List.mem_map.mp hv
  obtain ⟨x, es, rfl, hclass, hfile⟩ := h d hd
  exact isRecord_classAndFile hclass hfile

/-- **What the template of an index is given has the shapes it expects**, and it can be given. -/
theorem context_indexFile {es : List Entity} {f : PlannedFile} (h : f ∈ g.indexFiles es) :
    (∃ role ∈ [subModuleRole, rootModuleRole], f.template = g.config.templateFor role) ∧
      indexShapes.FitContext f.context ∧ HasNames f.context := by
  rcases List.mem_append.mp h with h | h
  · obtain ⟨c, _, rfl⟩ := List.mem_map.mp h
    refine ⟨⟨_, List.mem_cons_self, rfl⟩, fitContext_rows rfl fun d hd => ?_, ?_⟩
    · obtain ⟨i, _, rfl⟩ := List.mem_map.mp hd
      exact ⟨(i.className, i.fileName), _, rfl, rfl, rfl⟩
    · refine hasNames_ofFields ?_
      show "self" ∉ ["kind", "folder", "items"]
      decide
  · unfold rootIndexFiles at h
    split at h
    · rw [List.mem_singleton.mp h]
      refine ⟨⟨_, List.mem_cons_of_mem _ List.mem_cons_self, rfl⟩,
        fitContext_rows rfl fun d hd => ?_, ?_⟩
      · obtain ⟨c, _, rfl⟩ := List.mem_map.mp hd
        exact ⟨(c.kind.text, c.folder), _, rfl, rfl, rfl⟩
      · refine hasNames_ofFields ?_
        show "self" ∉ ["items"]
        decide
    · exact absurd h List.not_mem_nil

end Generator

/-! ## 4. Settings -/

/-- A configuration uses a set as it is: nothing comes before the set, and the templates are its own. -/
structure Config.UsesSet (c : Config) (set : String) : Prop where
  templateSet : c.templateSet = .text set
  templateDir : c.templateDir = .null
  templateEncoding : c.templateEncoding = .text "utf-8"
  items : ∀ kind, c.templateFor (roleOf kind) = .ok (.text (roleOf kind ++ ".j2"))
  indexes : ∀ role ∈ [subModuleRole, rootModuleRole],
    ∃ name ∈ indexNames (set == "typescript"), c.templateFor role = .ok (.text name)

/-- **A set that is asked for is used as it is**, and all its items have names. -/
theorem exists_usesSet {set : String} (hset : set ∈ templateSets) (workingFolder : List String) :
    ∃ c g, Config.resolve [] [] (some set) = .ok c ∧ Generator.ofConfig workingFolder c = .ok g ∧
      g.config = c ∧ c.UsesSet set := by
  rcases List.mem_cons.mp hset with rfl | hset
  · refine ⟨_, _, rfl, rfl, rfl, rfl, rfl, rfl, fun kind => ?_, fun role hrole => ?_⟩
    · rcases kind with _ | kind
      · rfl
      · cases kind <;> rfl
    · refine ⟨"module.j2", by decide, ?_⟩
      rcases List.mem_cons.mp hrole with rfl | hrole
      · rfl
      · rw [List.mem_singleton.mp hrole]
        rfl
  · rw [List.mem_singleton.mp hset]
    refine ⟨_, _, rfl, rfl, rfl, rfl, rfl, rfl, fun kind => ?_, fun role hrole => ?_⟩
    · rcases kind with _ | kind
      · rfl
      · cases kind <;> rfl
    · rcases List.mem_cons.mp hrole with rfl | hrole
      · exact ⟨"index.j2", by decide, rfl⟩
      · rw [List.mem_singleton.mp hrole]
        exact ⟨"module.j2", by decide, rfl⟩

/-- Every set has templates. -/
theorem exists_templates {set : String} (hset : set ∈ templateSets) :
    ∃ templates, (set, templates) ∈ Builtin.sources := by
  rcases List.mem_cons.mp hset with rfl | hset
  · exact ⟨_, List.mem_cons_self⟩
  · rw [List.mem_singleton.mp hset]
    exact ⟨_, List.mem_cons_of_mem _ List.mem_cons_self⟩

/-! ## 5. Answers -/

section Answers

variable {tree : FileTree} {fresh : Engine} {set : String} {templates : List (String × String)}
  {g : Generator} {m : Model}

/-- A call for an item is answered with an error of a template exactly if the item is not renderable. -/
theorem item_answer_iff (hinstalled : Builtin.Installed tree) (hc : g.config.UsesSet set)
    (htemplates : (set, templates) ∈ Builtin.sources)
    (hfresh : Pipeline.engineOf tree g.config = .ok fresh) {document : Data} {source : Option String}
    (h : Model.ofDocument document source = .ok m) {item : ModelItem} (hitem : item ∈ m.items)
    (hshape : item.WellShaped) {call : RenderCall}
    (hcall : (g.itemFile (.mapping (g.decorated m).context) item).call? = some call) :
    (∃ problem, fresh.answer tree call = .error (.template problem)) ↔
      ¬ item.Renderable (set == "typescript") := by
  obtain ⟨htemplate, hcontext⟩ := call?_eq_some hcall
  obtain ⟨text, t, hsource, ht, hrender⟩ :=
    exists_itemTemplate htemplates item.kind (some (roleOf item.kind ++ ".j2"))
  have hgiven := given_of_installed hinstalled hc.templateSet hc.templateDir hc.templateEncoding
    hfresh htemplates hsource ht
  have hname : call.template = .text (roleOf item.kind ++ ".j2") := by
    have hrole : g.config.templateFor (roleOf item.kind) = .ok call.template := by
      cases item <;> exact htemplate
    exact Except.ok.inj (hrole.symm.trans (hc.items item.kind))
  obtain ⟨hfit, hneeds⟩ := Generator.context_itemFile h hitem hshape (set == "typescript") hcontext
  rw [answer_template_iff hgiven hname, hrender hfit, hneeds]

/-- **A call for an index is answered with a text.** -/
theorem index_answered (hinstalled : Builtin.Installed tree) (hc : g.config.UsesSet set)
    (htemplates : (set, templates) ∈ Builtin.sources)
    (hfresh : Pipeline.engineOf tree g.config = .ok fresh) {es : List Entity} {f : PlannedFile}
    (hf : f ∈ g.indexFiles es) {call : RenderCall} (hcall : f.call? = some call) :
    ¬ ∃ problem, fresh.answer tree call = .error (.template problem) := by
  obtain ⟨htemplate, hcontext⟩ := call?_eq_some hcall
  obtain ⟨⟨role, hrole, hsetting⟩, hfit, hnames⟩ := Generator.context_indexFile hf
  obtain ⟨name, hname, hgives⟩ := hc.indexes role hrole
  obtain ⟨text, t, hsource, ht, hrender⟩ := exists_indexTemplateNeeds htemplates hname (some name)
  have hgiven := given_of_installed hinstalled hc.templateSet hc.templateDir hc.templateEncoding
    hfresh htemplates hsource ht
  have hcalled : call.template = .text name :=
    Except.ok.inj (htemplate.symm.trans (hsetting.trans hgives))
  rw [answer_template_iff hgiven hcalled, not_not]
  exact hrender (hcontext ▸ hfit) (hcontext ▸ hnames)

end Answers

/-! ## 6. Main result -/

section Walks

variable {σ : Type} {tree : FileTree} {fresh e : Engine} {set : String}
  {templates : List (String × String)} {g : Generator} {m : Model}

/-- The place of a call is that of an item, or it is one of an index. -/
theorem call_cases {calls : List RenderCall}
    (hcalls : calls.map some <+: (g.plannedFiles m).map PlannedFile.call?) {i : Nat}
    {call : RenderCall} (hcall : calls[i]? = some call) :
    (∃ item, m.items[i]? = some item) ∨ ∃ f ∈ g.indexFiles m.entities, f.call? = some call := by
  by_cases hi : i < m.items.length
  · exact Or.inl ⟨_, List.getElem?_eq_getElem hi⟩
  · have hplanned : ((g.plannedFiles m).map PlannedFile.call?)[i]? = some (some call) := by
      obtain ⟨rest, hrest⟩ := hcalls
      rw [← hrest, List.getElem?_append_left, List.getElem?_map, hcall]
      · rfl
      · rw [List.length_map]
        exact (List.getElem?_eq_some_iff.mp hcall).1
    rw [List.getElem?_map] at hplanned
    obtain ⟨f, hf, hcalled⟩ := Option.map_eq_some_iff.mp hplanned
    unfold Generator.plannedFiles at hf
    rw [g.itemFiles_eq, List.getElem?_append_right (by rw [List.length_map]; omega)] at hf
    exact Or.inr ⟨f, List.mem_of_getElem? hf, hcalled⟩

/-- **A walk with a set ends with an error of a template exactly if it reaches an item that is not
    renderable.** -/
theorem template_error_iff (hinstalled : Builtin.Installed tree) (hc : g.config.UsesSet set)
    (htemplates : (set, templates) ∈ Builtin.sources)
    (hfresh : Pipeline.engineOf tree g.config = .ok fresh) {document : Data} {source : Option String}
    (h : Model.ofDocument document source = .ok m) (hshape : ∀ item ∈ m.items, item.WellShaped)
    (he : fresh.Alike tree e) (sink : Sink σ) (s : σ) :
    (∃ problem, (g.generate (engineRenderer tree) sink m e s).outcome = .error (.template problem)) ↔
      ∃ i item, m.items[i]? = some item ∧
        i < (g.calls (engineRenderer tree) sink m e s).length ∧
        ¬ item.Renderable (set == "typescript") := by
  have hf := fresh_ofDocument h
  obtain ⟨_, _, _, hcalls, _⟩ := generate_recording g (engineRenderer tree) sink hf e s
  rw [generate_template_iff g (engineRenderer_answers tree fresh) sink hf he s]
  have hanswer : ∀ {i : Nat} {item : ModelItem} {call : RenderCall}, m.items[i]? = some item →
      (g.calls (engineRenderer tree) sink m e s)[i]? = some call →
        ((∃ problem, fresh.answer tree call = .error (.template problem)) ↔
          ¬ item.Renderable (set == "typescript")) := by
    intro i item call hitem hcall
    have hmem := List.mem_of_getElem? hitem
    exact item_answer_iff hinstalled hc htemplates hfresh h hmem (hshape item hmem)
      (call_of_item hcalls hitem hcall)
  constructor
  · rintro ⟨call, hcall, hproblem⟩
    obtain ⟨i, hi⟩ := List.getElem?_of_mem hcall
    rcases call_cases hcalls hi with ⟨item, hitem⟩ | ⟨f, hindex, hcalled⟩
    · exact ⟨i, item, hitem, (List.getElem?_eq_some_iff.mp hi).1, (hanswer hitem hi).mp hproblem⟩
    · exact absurd hproblem (index_answered hinstalled hc htemplates hfresh hindex hcalled)
  · rintro ⟨i, item, hitem, hi, hnot⟩
    have hcall := List.getElem?_eq_getElem hi
    exact ⟨_, List.mem_of_getElem? hcall, (hanswer hitem hcall).mpr hnot⟩

/-- **The built-in sets render every model but for the fields that its items bring.** Where the sets are
    installed, the default configuration of a set has a generator and an engine, and with these a walk
    over a model whose items are well-shaped ends with an error of a template exactly if it reaches an
    item that is not renderable, into whatever sink and whatever the engine was used for before. -/
theorem generate_builtin (hinstalled : Builtin.Installed tree) (hset : set ∈ templateSets)
    (workingFolder : List String) :
    ∃ c g fresh, Config.resolve [] [] (some set) = .ok c ∧ Generator.ofConfig workingFolder c = .ok g ∧
      Pipeline.engineOf tree c = .ok fresh ∧
      ∀ {σ : Type} (sink : Sink σ) {document : Data} {source : Option String} {m : Model},
        Model.ofDocument document source = .ok m → (∀ item ∈ m.items, item.WellShaped) →
        ∀ e, fresh.Alike tree e → ∀ s,
          (∃ problem, (g.generate (engineRenderer tree) sink m e s).outcome =
              .error (.template problem)) ↔
            ∃ i item, m.items[i]? = some item ∧
              i < (g.calls (engineRenderer tree) sink m e s).length ∧
              ¬ item.Renderable (set == "typescript") := by
  obtain ⟨c, g, hc, hg, rfl, huses⟩ := exists_usesSet hset workingFolder
  obtain ⟨templates, htemplates⟩ := exists_templates hset
  obtain ⟨fresh, hfresh⟩ :=
    exists_engineOf hinstalled huses.templateSet huses.templateDir htemplates
  exact ⟨g.config, g, fresh, hc, hg, hfresh, fun sink _ _ _ h hshape e he s =>
    template_error_iff hinstalled huses htemplates hfresh h hshape he sink s⟩

end Walks

/-- A document whose fields the built-in templates can show. -/
def describedDocument : Data :=
  .mapping [(.text "aggregates", .mapping [(.text "order", .mapping [
    (.text "description", .text "An order."),
    (.text "events", .mapping [(.text "placed", .mapping [
      (.text "properties", .mapping [(.text "total", .text "number")])])])])])]

/-- The aggregate of the document. -/
def describedAggregate : Aggregate :=
  ⟨"order", [(.text "description", .text "An order.")],
    [(.event, [⟨.event, "placed", "order",
      [(.text "properties", .mapping [(.text "total", .text "number")])], none⟩])], none⟩

theorem renderable_described : ∀ item ∈ (Model.mk [describedAggregate] [] none).items,
    item.WellShaped ∧ item.Renderable false := by
  intro item hitem
  rcases List.mem_cons.mp hitem with rfl | hitem
  · refine ⟨⟨fun x hx => ?_, fun v hv => by cases hv⟩, rfl, fun n hn => ?_⟩
    · rw [List.mem_singleton.mp hx]
      exact ⟨_, rfl⟩
    · rw [List.mem_singleton.mp hn]
      intro v hv
      cases hv
      rfl
  · rw [List.mem_singleton.mp hitem]
    refine ⟨⟨fun x hx => ?_, fun v hv => ?_⟩, rfl, fun n hn => ?_⟩
    · rw [List.mem_singleton.mp hx]
      exact ⟨_, rfl⟩
    · cases hv
      exact Or.inr ⟨_, rfl⟩
    · rcases List.mem_cons.mp hn with rfl | hn
      · intro v hv
        cases hv
      · rw [List.mem_singleton.mp hn]
        intro es hes e he
        cases hes
        rw [List.mem_singleton.mp he]
        rfl

theorem generate_builtin_described : ∃ c g fresh,
    Config.resolve [] [] (some "es6") = .ok c ∧ Generator.ofConfig [] c = .ok g ∧
      Pipeline.engineOf (Builtin.install ⟨[], []⟩) c = .ok fresh ∧
      ¬ ∃ problem, (g.generate (engineRenderer (Builtin.install ⟨[], []⟩)) memorySink
        ⟨[describedAggregate], [], none⟩ fresh []).outcome = .error (.template problem) := by
  have hinstalled := Builtin.installed_install (t := ⟨[], []⟩) fun _ h => absurd h List.not_mem_nil
  have hread : Model.ofDocument describedDocument none = .ok ⟨[describedAggregate], [], none⟩ := rfl
  obtain ⟨c, g, fresh, hc, hg, hfresh, hall⟩ :=
    generate_builtin hinstalled (show "es6" ∈ templateSets by decide) []
  refine ⟨c, g, fresh, hc, hg, hfresh, ?_⟩
  rw [hall memorySink hread (fun item hitem => (renderable_described item hitem).1) fresh (.refl _ _)]
  rintro ⟨i, item, hitem, _, hnot⟩
  exact hnot (renderable_described item (List.mem_of_getElem? hitem)).2

/-- A document with a field that cannot be given to a template. -/
def selfDocument : Data :=
  .mapping [(.text "aggregates", .mapping [(.text "order", .mapping [(.text "self", .int 1)])])]

/-- The aggregate of the document. -/
def selfAggregate : Aggregate := ⟨"order", [(.text "self", .int 1)], [], none⟩

/-- **A field that no template shows can keep a template from being rendered.** -/
theorem builtin_not_rendered : ∃ c g fresh,
    Config.resolve [] [] (some "es6") = .ok c ∧ Generator.ofConfig [] c = .ok g ∧
      Pipeline.engineOf (Builtin.install ⟨[], []⟩) c = .ok fresh ∧
      Model.ofDocument selfDocument none = .ok ⟨[selfAggregate], [], none⟩ ∧
      (∀ item ∈ (Model.mk [selfAggregate] [] none).items, item.WellShaped) ∧
      ∃ problem, (g.generate (engineRenderer (Builtin.install ⟨[], []⟩)) memorySink
        ⟨[selfAggregate], [], none⟩ fresh []).outcome = .error (.template problem) := by
  have hinstalled := Builtin.installed_install (t := ⟨[], []⟩) fun _ h => absurd h List.not_mem_nil
  have hread : Model.ofDocument selfDocument none = .ok ⟨[selfAggregate], [], none⟩ := rfl
  have hshape : ∀ item ∈ (Model.mk [selfAggregate] [] none).items, item.WellShaped := by
    intro item hitem
    rw [List.mem_singleton.mp hitem]
    refine ⟨fun x hx => ?_, fun v hv => by cases hv⟩
    rw [List.mem_singleton.mp hx]
    exact ⟨_, rfl⟩
  obtain ⟨c, g, hc, hg, rfl, huses⟩ := exists_usesSet (show "es6" ∈ templateSets by decide) []
  obtain ⟨templates, htemplates⟩ := exists_templates (show "es6" ∈ templateSets by decide)
  obtain ⟨fresh, hfresh⟩ :=
    exists_engineOf hinstalled huses.templateSet huses.templateDir htemplates
  have hcall := call?_of_template (f := g.itemFile
    (.mapping (g.decorated ⟨[selfAggregate], [], none⟩).context) (.aggregate selfAggregate))
    (huses.items none)
  obtain ⟨problem, hproblem⟩ := (item_answer_iff hinstalled huses htemplates hfresh hread
    List.mem_cons_self (hshape _ List.mem_cons_self) hcall).mpr fun hr => by cases hr.noSelf
  refine ⟨g.config, g, fresh, hc, hg, hfresh, hread, hshape, problem, ?_⟩
  exact outcome_of_first g (engineRenderer_answers _ fresh) memorySink (fresh_ofDocument hread)
    (.refl _ fresh) [] rfl hcall hproblem

end DomainGen
