import DomainGen.Config.Basic
import DomainGen.Proofs.Template.Needs

/-!
# What the built-in templates need

The built-in templates of items show the description of the item, the keys of its properties and, if the
set is typed, their values; those of faults also show a message. They show nothing else that could be
without a text, and the templates of indexes show nothing of the kind at all.

* `aggregateShapes`, `entityShapes`, `indexShapes` : what is known of the names in their contexts;
* `itemNeeds` : what the template of an item needs;
* `exists_itemTemplate`, `exists_indexTemplateNeeds` : **every built-in set has templates with these
  needs**;
* `render_ok_iff` : such a template is rendered exactly if the context can be read and has what is
  needed.
-/

namespace DomainGen.Template

/-! ## 1. The templates -/

/-- The names in the context of an aggregate. -/
def aggregateShapes : Shapes :=
  [("className", .text), ("description", .any), ("kindPaths", .record ["command", "event"]),
    ("commands", .records ["className", "fileName"]), ("events", .records ["className", "fileName"])]

/-- The names in the context of an entity. -/
def entityShapes : Shapes :=
  [("className", .text), ("aggregate", .record ["className"]), ("description", .any),
    ("message", .any), ("properties", .table)]

/-- The names in the context of an item. -/
def itemShapes : Option Kind → Shapes
  | none => aggregateShapes
  | some _ => entityShapes

/-- The names in the context of an index. -/
def indexShapes : Shapes := [("items", .rows ["className", "fileName"])]

/-- What the template of an item needs, of a set that is typed or not. -/
def itemNeeds (typed : Bool) : Option Kind → List Need
  | none => [.name "description"]
  | some kind => [.name "description", .keys "properties"]
      ++ (if kind = .fault then [.name "message"] else [])
      ++ (if typed then [.values "properties"] else [])

/-- What the templates of the plain set need. -/
theorem needs_plain :
    sourceNeeds? aggregateShapes Builtin.plainAggregate = some [.name "description"] ∧
    sourceNeeds? entityShapes Builtin.plainEntity =
      some [.name "description", .keys "properties", .keys "properties"] ∧
    sourceNeeds? entityShapes Builtin.plainFault =
      some [.name "description", .name "message", .keys "properties", .keys "properties"] ∧
    sourceNeeds? indexShapes Builtin.plainIndex = some [] := by
  unfold sourceNeeds? ofSource readSource Builtin.plainAggregate Builtin.plainEntity
    Builtin.plainFault Builtin.plainIndex
  refine ⟨?_, ?_, ?_, ?_⟩
  · rw [segments_lines (by repeat' constructor)]
    decide +kernel
  · rw [segments_lines (by repeat' constructor)]
    decide +kernel
  · rw [segments_lines (by repeat' constructor)]
    decide +kernel
  · rw [segments_lines (by repeat' constructor)]
    decide +kernel

/-- What the templates of the typed set need. -/
theorem needs_typed :
    sourceNeeds? aggregateShapes Builtin.typedAggregate = some [.name "description"] ∧
    sourceNeeds? entityShapes Builtin.typedEntity =
      some [.name "description", .keys "properties", .values "properties", .keys "properties",
        .keys "properties"] ∧
    sourceNeeds? entityShapes Builtin.typedFault =
      some [.name "description", .keys "properties", .values "properties", .name "message",
        .keys "properties", .keys "properties"] ∧
    sourceNeeds? indexShapes Builtin.typedKindIndex = some [] ∧
    sourceNeeds? indexShapes Builtin.typedIndex = some [] := by
  unfold sourceNeeds? ofSource readSource Builtin.typedAggregate Builtin.typedEntity
    Builtin.typedFault Builtin.typedKindIndex Builtin.typedIndex
  refine ⟨?_, ?_, ?_, ?_, ?_⟩
  · rw [segments_lines (by repeat' constructor)]
    decide +kernel
  · rw [segments_lines (by repeat' constructor)]
    decide +kernel
  · rw [segments_lines (by repeat' constructor)]
    decide +kernel
  · rw [segments_lines (by repeat' constructor)]
    decide +kernel
  · rw [segments_lines (by repeat' constructor)]
    decide +kernel

/-! ## 2. Contexts -/

/-- The names that mean something without a context. -/
def reservedNames : List String := "self" :: commonNames.map (·.1)

/-- The keys of a context are texts other than `self`. -/
def HasNames (c : Entries) : Prop := ∀ x ∈ c, ∃ k, x.1 = .text k ∧ k ≠ "self"

/-- Reading a key that can be a name, and the entries after it. -/
theorem contextNames_cons {k : String} (hk : k ≠ "self") (v : Data) (rest : Entries) :
    contextNames ((.text k, v) :: rest) =
      contextNames rest >>= fun names => .ok ((k, .ofData v) :: names) := by
  have hself : (k == "self") = false := beq_eq_false_iff_ne.mpr hk
  show (if (k == "self") = true then _ else _) = _
  rw [hself]
  rfl

/-- **A context can be read exactly if its keys are texts other than `self`.** -/
theorem contextNames_ok_iff : ∀ {c : Entries},
    (∃ names, contextNames c = .ok names) ↔ HasNames c
  | [] => ⟨fun _ x hx => absurd hx List.not_mem_nil, fun _ => ⟨[], rfl⟩⟩
  | (k, v) :: rest => by
      have ih : (∃ names, contextNames rest = .ok names) ↔ HasNames rest := contextNames_ok_iff
      unfold HasNames at ih ⊢
      rw [List.forall_mem_cons, ← ih]
      cases k with
      | text key =>
          by_cases hself : key = "self"
          · rw [hself]
            refine iff_of_false (fun ⟨_, h⟩ => by cases h) fun ⟨⟨k, hk, hne⟩, _⟩ => ?_
            exact hne (Data.text.inj hk).symm
          · rw [contextNames_cons hself]
            constructor
            · rintro ⟨_, h⟩
              obtain ⟨names, hnames, _⟩ := except_bind_eq_ok.mp h
              exact ⟨⟨key, rfl, hself⟩, names, hnames⟩
            · rintro ⟨_, names, hnames⟩
              exact ⟨_, except_bind_eq_ok.mpr ⟨names, hnames, rfl⟩⟩
      | _ =>
          refine iff_of_false (fun ⟨_, h⟩ => by cases h) fun ⟨⟨k, hk, _⟩, _⟩ => ?_
          cases hk

/-- What a name denotes in a context. -/
def contextValue (c : Entries) (x : String) : Value :=
  ((c.get? x).map Value.ofData).getD (.undefined (.undefinedName x))

theorem lookup_context {c : Entries} {names : List (String × Value)}
    (hnames : contextNames c = .ok names) {x : String} (hx : x ∉ reservedNames) (escaping : Bool)
    (template : Option String) :
    (Scope.mk names escaping template).lookup x = contextValue c x := by
  unfold Scope.lookup contextValue
  dsimp only
  rw [lookup_contextNames x hnames]
  cases c.get? x with
  | some v => rfl
  | none =>
      have hself : (x == "self") = false :=
        beq_eq_false_iff_ne.mpr fun heq => hx (heq ▸ List.mem_cons_self)
      have hcommon : commonNames.lookup x = none := by
        rw [List.lookup_eq_none_iff]
        intro y hy
        rw [bne_iff_ne]
        rintro rfl
        exact hx (List.mem_cons_of_mem _ (List.mem_map_of_mem hy))
      show (if (x == "self") = true then _ else (commonNames.lookup x).getD _) = _
      rw [hself, hcommon]
      rfl

theorem contextValue_of_get? {c : Entries} {x : String} {v : Data} (h : c.get? x = some v) :
    contextValue c x = .ofData v := by
  unfold contextValue
  rw [h]
  rfl

theorem isTrue_contextValue_of_none {c : Entries} {x : String} (h : c.get? x = none) :
    (contextValue c x).isTrue = false := by
  unfold contextValue
  rw [h]
  rfl

theorem isSettled_contextValue (c : Entries) (x : String) :
    (contextValue c x).isSettled = true := by
  unfold contextValue
  cases c.get? x with
  | none => rfl
  | some v => exact Value.isSettled_ofData v

/-- The names in a context have their shapes. -/
def Shapes.FitContext (Γ : Shapes) (c : Entries) : Prop :=
  ∀ x shape, Γ.lookup x = some shape → x ∉ reservedNames ∧ shape.Fits (contextValue c x)

/-- Names have their shapes in a context if each of them has. -/
theorem fitContext_of_forall {Γ : Shapes} {c : Entries} (hnames : ∀ x ∈ Γ, x.1 ∉ reservedNames)
    (h : ∀ x ∈ Γ, x.2.Fits (contextValue c x.1)) : Γ.FitContext c := by
  intro x shape hx
  obtain ⟨before, after, heq, _⟩ := List.lookup_eq_some_iff.mp hx
  have hmem : (x, shape) ∈ Γ := heq ▸ List.mem_append_right before List.mem_cons_self
  exact ⟨hnames _ hmem, h _ hmem⟩

/-- A mapping with texts under some names is a record. -/
theorem isRecord_ofData {c : Entries} {names : List String}
    (h : ∀ n ∈ names, n ∈ ["className", "fileName", "command", "event"] ∧
      ∃ text, c.get? n = some (.text text)) : Shape.IsRecord names (.ofData (.mapping c)) := by
  intro n hn
  obtain ⟨hname, text, htext⟩ := h n hn
  exact ⟨text, Value.member_ofData (Value.isEntryName_of_mem hname) htext⟩

theorem Shapes.FitContext.fit {Γ : Shapes} {c : Entries} (h : Γ.FitContext c)
    {names : List (String × Value)} (hnames : contextNames c = .ok names) (escaping : Bool)
    (template : Option String) : Γ.Fit ⟨names, escaping, template⟩ := by
  intro x shape hx
  rw [lookup_context hnames (h x shape hx).1]
  exact (h x shape hx).2

/-- The name a need is about. -/
def Need.about : Need → String
  | name x => x
  | keys x => x
  | values x => x

/-- A context has what is needed. -/
def Need.MetBy (c : Entries) : Need → Prop
  | name x => ∀ v, c.get? x = some v → v.hasText = true
  | keys x => ∀ es, c.get? x = some (.mapping es) → ∀ e ∈ es, e.1.hasText = true
  | values x => ∀ es, c.get? x = some (.mapping es) → ∀ e ∈ es, e.2.hasText = true

/-- Contexts with the same value for what a need is about meet it alike. -/
theorem Need.metBy_congr {n : Need} {c c' : Entries} (h : c.get? n.about = c'.get? n.about) :
    n.MetBy c ↔ n.MetBy c' := by
  cases n <;> simp only [Need.MetBy] <;> exact h ▸ Iff.rfl

/-- A name denotes a mapping exactly if the context has one for it. -/
theorem contextValue_eq_mapping {c : Entries} {x : String} {es : List (Value × Value)} :
    contextValue c x = .mapping es ↔
      ∃ es', c.get? x = some (.mapping es') ∧ Value.ofEntries es' = es := by
  unfold contextValue
  cases c.get? x with
  | none => exact iff_of_false (fun h => by cases h) fun ⟨_, h, _⟩ => by cases h
  | some v =>
      cases v with
      | mapping es' =>
          constructor
          · intro h
            exact ⟨es', rfl, Value.mapping.inj h⟩
          · rintro ⟨_, h, rfl⟩
            cases h
            rfl
      | _ => exact iff_of_false (fun h => by cases h) fun ⟨_, h, _⟩ => by cases h

theorem forall_entries_contextValue {c : Entries} {x : String} {P : Value × Value → Prop} :
    (∀ es, contextValue c x = .mapping es → ∀ e ∈ es, P e) ↔
      ∀ es, c.get? x = some (.mapping es) → ∀ e ∈ es, P (.ofData e.1, .ofData e.2) := by
  constructor
  · intro h es hes e he
    refine h _ (contextValue_eq_mapping.mpr ⟨es, hes, rfl⟩) _ ?_
    rw [Value.ofEntries_eq_map]
    exact List.mem_map_of_mem he
  · intro h es hes e he
    obtain ⟨es', hes', rfl⟩ := contextValue_eq_mapping.mp hes
    rw [Value.ofEntries_eq_map] at he
    obtain ⟨e', he', rfl⟩ := List.mem_map.mp he
    exact h es' hes' e' he'

/-- **What is needed is met in a scope exactly if the context has it.** -/
theorem met_iff {c : Entries} {names : List (String × Value)} (hnames : contextNames c = .ok names)
    {n : Need} (hn : n.about ∉ reservedNames) (escaping : Bool) (template : Option String) :
    n.Met ⟨names, escaping, template⟩ ↔ n.MetBy c := by
  cases n with
  | name x =>
      have hx : x ∉ reservedNames := hn
      simp only [Need.Met, Need.MetBy, lookup_context hnames hx]
      unfold contextValue
      cases c.get? x with
      | none => exact iff_of_true rfl fun _ h => by cases h
      | some v =>
          rw [Option.map_some, Option.getD_some, Value.hasText_ofData]
          exact ⟨fun h _ heq => Option.some.inj heq ▸ h, fun h => h v rfl⟩
  | keys x =>
      have hx : x ∉ reservedNames := hn
      simp only [Need.Met, Need.MetBy, lookup_context hnames hx, forall_entries_contextValue,
        Value.hasText_ofData]
  | values x =>
      have hx : x ∉ reservedNames := hn
      simp only [Need.Met, Need.MetBy, lookup_context hnames hx, forall_entries_contextValue,
        Value.hasText_ofData]

/-! ## 3. Rendering -/

/-- The name of a template does not matter for what it is. -/
theorem ofSource_name {escaping : Bool} {source : String} {t : Template}
    (h : ofSource none escaping source = .ok t) (name : Option String) :
    ofSource name escaping source = .ok ⟨name, escaping, t.parts⟩ := by
  have hname : ofSource name escaping source =
      (ofSource none escaping source).map fun t => { t with name } := by
    unfold ofSource
    cases readSource source with
    | error d => rfl
    | ok parts =>
        dsimp only [bind, Except.bind]
        cases prepareParts escaping false parts with
        | error d => rfl
        | ok prepared =>
            dsimp only
            split
            · rfl
            · split <;> rfl
  obtain ⟨_, _, _, hescaping⟩ := ofSource_eq_ok h
  rw [hname, h, ← hescaping]
  rfl

/-- A template of a source whose needs are known is rendered exactly if the context can be read and has
    what is needed. -/
theorem render_ok_iff {Γ : Shapes} {source : String} {needs : List Need}
    (h : sourceNeeds? Γ source = some needs) (hneeds : ∀ n ∈ needs, n.about ∉ reservedNames)
    (name : Option String) : ∃ t, ofSource name false source = .ok t ∧ ∀ {c : Entries},
      Γ.FitContext c → ((∃ text, t.render c = .ok text) ↔ HasNames c ∧ ∀ n ∈ needs, n.MetBy c) := by
  obtain ⟨t, ht, hparts⟩ := Option.bind_eq_some_iff.mp h
  refine ⟨_, ofSource_name (eq_ok_of_toOption ht) name, fun {c} hc => ?_⟩
  rw [← contextNames_ok_iff]
  unfold Template.render
  constructor
  · rintro ⟨text, hrender⟩
    obtain ⟨names, hnames, hrender⟩ := except_bind_eq_ok.mp hrender
    refine ⟨⟨names, hnames⟩, fun n hn => ?_⟩
    refine (met_iff hnames (hneeds n hn) false name).mp ?_
    exact (renderParts_iff (hc.fit hnames _ _) hparts).mp ⟨text, hrender⟩ n hn
  · rintro ⟨⟨names, hnames⟩, hall⟩
    obtain ⟨text, htext⟩ := (renderParts_iff (hc.fit hnames false name) hparts).mpr fun n hn =>
      (met_iff hnames (hneeds n hn) _ _).mpr (hall n hn)
    exact ⟨text, except_bind_eq_ok.mpr ⟨names, hnames, htext⟩⟩

/-- The fields that templates of items show. -/
def shownFields : List String := ["description", "properties", "message"]

/-- The needs of the templates of items are about fields. -/
theorem about_itemNeeds (typed : Bool) (kind : Option Kind) :
    ∀ n ∈ itemNeeds typed kind, n.about ∈ shownFields := by
  rcases kind with _ | kind
  · cases typed <;> decide
  · cases kind <;> cases typed <;> decide

theorem shownFields_free : ∀ x ∈ shownFields, x ∉ reservedNames := by decide

/-- Every built-in set has a template for each item with the needs of the item. -/
theorem exists_itemSource {set : String} {templates : List (String × String)}
    (h : (set, templates) ∈ Builtin.sources) (kind : Option Kind) : ∃ source needs,
      templates.lookup (roleOf kind ++ ".j2") = some source ∧
      sourceNeeds? (itemShapes kind) source = some needs ∧
      (∀ n ∈ needs, n ∈ itemNeeds (set == "typescript") kind) ∧
      ∀ n ∈ itemNeeds (set == "typescript") kind, n ∈ needs := by
  rcases List.mem_cons.mp h with heq | h
  · obtain ⟨rfl, rfl⟩ := Prod.mk.inj heq
    rcases kind with _ | kind
    · exact ⟨_, _, rfl, needs_plain.1, by decide, by decide⟩
    · cases kind with
      | command => exact ⟨_, _, rfl, needs_plain.2.1, by decide, by decide⟩
      | event => exact ⟨_, _, rfl, needs_plain.2.1, by decide, by decide⟩
      | fault => exact ⟨_, _, rfl, needs_plain.2.2.1, by decide, by decide⟩
  · obtain ⟨rfl, rfl⟩ := Prod.mk.inj (List.mem_singleton.mp h)
    rcases kind with _ | kind
    · exact ⟨_, _, rfl, needs_typed.1, by decide, by decide⟩
    · cases kind with
      | command => exact ⟨_, _, rfl, needs_typed.2.1, by decide, by decide⟩
      | event => exact ⟨_, _, rfl, needs_typed.2.1, by decide, by decide⟩
      | fault => exact ⟨_, _, rfl, needs_typed.2.2.1, by decide, by decide⟩

/-- **Every built-in set has a template for each item**, and it is rendered exactly if the context can be
    read and has what is needed. -/
theorem exists_itemTemplate {set : String} {templates : List (String × String)}
    (h : (set, templates) ∈ Builtin.sources) (kind : Option Kind) (name : Option String) :
    ∃ source t, templates.lookup (roleOf kind ++ ".j2") = some source ∧
      ofSource name false source = .ok t ∧ ∀ {c : Entries}, (itemShapes kind).FitContext c →
        ((∃ text, t.render c = .ok text) ↔
          HasNames c ∧ ∀ n ∈ itemNeeds (set == "typescript") kind, n.MetBy c) := by
  obtain ⟨source, needs, hsource, hneeds, hto, hfrom⟩ := exists_itemSource h kind
  obtain ⟨t, ht, hrender⟩ := render_ok_iff hneeds
    (fun n hn => shownFields_free _ (about_itemNeeds _ kind n (hto n hn))) name
  refine ⟨source, t, hsource, ht, fun {c} hc => (hrender hc).trans (and_congr_right fun _ => ?_)⟩
  exact ⟨fun hall n hn => hall n (hfrom n hn), fun hall n hn => hall n (hto n hn)⟩

/-- The indexes of a set, by the names of their templates. -/
def indexNames (typed : Bool) : List String := if typed then ["index.j2", "module.j2"] else ["module.j2"]

/-- **Every built-in set has templates for indexes**, and they are rendered from any list of classes and
    files. -/
theorem exists_indexTemplateNeeds {set : String} {templates : List (String × String)}
    (h : (set, templates) ∈ Builtin.sources) {file : String}
    (hfile : file ∈ indexNames (set == "typescript")) (name : Option String) :
    ∃ source t, templates.lookup file = some source ∧ ofSource name false source = .ok t ∧
      ∀ {c : Entries}, indexShapes.FitContext c → HasNames c → ∃ text, t.render c = .ok text := by
  obtain ⟨source, hsource, hneeds⟩ : ∃ source, templates.lookup file = some source ∧
      sourceNeeds? indexShapes source = some [] := by
    rcases List.mem_cons.mp h with heq | h
    · obtain ⟨rfl, rfl⟩ := Prod.mk.inj heq
      rw [List.mem_singleton.mp hfile]
      exact ⟨_, rfl, needs_plain.2.2.2⟩
    · obtain ⟨rfl, rfl⟩ := Prod.mk.inj (List.mem_singleton.mp h)
      rcases List.mem_cons.mp hfile with rfl | hfile
      · exact ⟨_, rfl, needs_typed.2.2.2.1⟩
      · rw [List.mem_singleton.mp hfile]
        exact ⟨_, rfl, needs_typed.2.2.2.2⟩
  obtain ⟨t, ht, hrender⟩ := render_ok_iff hneeds (fun _ hn => absurd hn List.not_mem_nil) name
  exact ⟨source, t, hsource, ht, fun hc hnames =>
    (hrender hc).mpr ⟨hnames, fun _ hn => absurd hn List.not_mem_nil⟩⟩

end DomainGen.Template
