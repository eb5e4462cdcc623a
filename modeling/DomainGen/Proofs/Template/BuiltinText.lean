import DomainGen.Model.Basic
import DomainGen.Proofs.Template.Evaluation
import DomainGen.Proofs.Template.Source
import DomainGen.Template.Engine
import Mathlib

/-!
# The texts of indexes and imports

The built-in templates for indexes have one form: a heading, then a line for each item, which names
its class and, without the extension, its file. They differ in the words around the names.

The built-in template of a typed aggregate begins with a loop over its commands and one over its
events. Each gives a line for an entity, which imports its class from the folder of its kind.

* `IndexWords`, `IndexWords.parts`, `IndexWords.text` : an index template, and the text it is to give;
* `ofSource_index` : a source with the segments of an index is one;
* `render_index` : **an index template gives its heading and a line for each item**;
* `exists_indexTemplate` : every built-in set has an index template;
* `importLine` : such a line;
* `importLoop`, `parts_typedAggregate` : **the template begins with the loops over commands and
  events**;
* `render_importLoop` : what a loop gives for the entities in a context;
* `render_typedAggregate` : **what the template gives begins with these lines**.
-/

namespace DomainGen.Template

/-! ## 1. The templates of indexes -/

/-- How an index names a file beside it. -/
def specifierOf (fileName : String) : String := "./" ++ stripExtension fileName

/-- The words of an index: before all lines, and around the names in a line. -/
structure IndexWords where
  heading : String
  before : String
  between : String
  after : String

namespace IndexWords

variable (w : IndexWords)

/-- The segments of an index whose loop begins in a line. -/
def segments (line : Nat) : List Segment :=
  [.text w.heading,
    .statement [⟨.name "for", line⟩, ⟨.name "item", line⟩, ⟨.name "in", line⟩,
      ⟨.name "items", line⟩],
    .text w.before,
    .output [⟨.name "item", line + 1⟩, ⟨.sign ".", line + 1⟩, ⟨.name "className", line + 1⟩],
    .text (w.between ++ "./"),
    .output [⟨.name "item", line + 1⟩, ⟨.sign ".", line + 1⟩, ⟨.name "fileName", line + 1⟩,
      ⟨.sign "|", line + 1⟩, ⟨.name "strip_extension", line + 1⟩],
    .text w.after,
    .statement [⟨.name "endfor", line + 2⟩],
    .text ""]

/-- What a line of an index shows. -/
def body : List Part :=
  [.text w.before, .output (.member (.name "item") "className"), .text (w.between ++ "./"),
    .output (.filter "strip_extension" (.member (.name "item") "fileName") [] []), .text w.after]

/-- The parts of an index. -/
def parts : List Part :=
  [.text w.heading, .loop (.name "item") (.name "items") none false w.body [], .text ""]

/-- The line for a class in a file. -/
def line (x : String × String) : String :=
  w.before ++ x.1 ++ w.between ++ specifierOf x.2 ++ w.after

/-- The text for some classes and their files. -/
def text (xs : List (String × String)) : String :=
  w.heading ++ String.join (xs.map w.line)

end IndexWords

section Source

variable {w : IndexWords}

-- the readers of expressions are run on the tokens of the three tags
set_option maxRecDepth 100000 in
theorem readParts_index (w : IndexWords) (line : Nat) :
    readParts [] ⟨maxDepth⟩ (2 * (w.segments line).length + 2) (w.segments line) =
      .ok (w.parts, ("", []), []) := by
  cbv

/-- Nothing in an index is constant but its words. -/
theorem prepareParts_index (w : IndexWords) (escaping : Bool) :
    prepareParts escaping false w.parts = .ok w.parts := rfl

/-- **A source with the segments of an index is an index.** -/
theorem ofSource_index {source : String} {line : Nat} (h : segments source = w.segments line)
    (name : Option String) (escaping : Bool) :
    ofSource name escaping source = .ok ⟨name, escaping, w.parts⟩ := by
  have hread : readSource source = .ok w.parts := by
    unfold readSource
    dsimp only
    rw [h, readParts_index]
    rfl
  unfold ofSource
  rw [hread]
  dsimp only [bind, Except.bind]
  rw [prepareParts_index]
  rfl

end Source

/-! ## 2. The texts of indexes -/

section Text

variable {w : IndexWords} {s : Scope} {x : String × String}

/-- The line of an item. -/
theorem renderParts_body {d : Data} (hs : s.escaping = false)
    (hitem : s.names.lookup "item" = some (.ofData d)) (h : Lists d x) :
    renderParts s w.body = .ok (w.line x) := by
  obtain ⟨c, rfl, hclass, hfile⟩ := h
  have hitem := eval_name hitem
  have hclassName := eval_member hitem (Value.isEntryName_of_mem (by decide)) hclass
  have hfileName := eval_member hitem (Value.isEntryName_of_mem (by decide)) hfile
  have hstem := eval_stripExtension hfileName
  have hline : renderParts s w.body = .ok (w.before ++ (x.1 ++ (w.between ++ "./" ++
      (stripExtension x.2 ++ (w.after ++ ""))))) :=
    renderParts_cons rfl (renderParts_cons (render_output hs hclassName) (renderParts_cons rfl
      (renderParts_cons (render_output hs hstem) (renderParts_cons rfl rfl))))
  rw [hline]
  unfold IndexWords.line specifierOf
  simp only [String.append_empty, String.append_assoc]

/-- **An index template gives its heading and a line for each item.** -/
theorem render_index {t : Template} (hparts : t.parts = w.parts) (ht : t.escaping = false)
    {c : Entries} {names : List (String × Value)} (hnames : contextNames c = .ok names)
    {items : List Data} (hitems : c.get? "items" = some (.list items))
    {xs : List (String × String)} (h : List.Forall₂ Lists items xs) :
    t.render c = .ok (w.text xs) := by
  have hthrough : (Expr.name "items").eval ⟨names, t.escaping, t.name⟩ =
      .ok (.ofData (.list items)) := by
    refine eval_name ((lookup_contextNames "items" hnames).trans ?_)
    rw [hitems]
    rfl
  have hbody : List.Forall₂ (fun v text => ∀ i, ∃ bound, (Target.name "item").bind v = .ok bound ∧
      renderParts ((Scope.mk names t.escaping t.name).push (bound ++ [("loop",
        .loop (Value.ofItems items) i none)])) w.body = .ok text)
      (Value.ofItems items) (xs.map w.line) := by
    rw [Value.ofItems_eq_map, List.forall₂_map_left_iff, List.forall₂_map_right_iff]
    refine h.imp fun d x hd i => ⟨[("item", .ofData d)], rfl, ?_⟩
    exact renderParts_body ht rfl hd
  have hloop := render_loop false hthrough rfl hbody
  unfold Template.render
  rw [hnames, hparts]
  have hnothing : renderParts ⟨names, t.escaping, t.name⟩ [.text ""] = .ok "" := rfl
  have hall := renderParts_cons (p := .text w.heading) rfl (renderParts_cons hloop hnothing)
  rw [String.append_empty] at hall
  exact hall

end Text

/-! ## 3. The built-in templates -/

/-- The words of an index of modules. -/
def plainIndexWords : IndexWords :=
  ⟨"'use strict';\n\n", "module.exports.", " = require('", "');\n"⟩

/-- The words of a typed index of the kinds. -/
def typedIndexWords : IndexWords := ⟨"", "export * as ", " from '", "';\n"⟩

theorem segments_plainIndex : segments Builtin.plainIndex = plainIndexWords.segments 3 := by
  unfold Builtin.plainIndex
  rw [segments_lines (by repeat' constructor)]
  decide +kernel

theorem segments_typedIndex : segments Builtin.typedIndex = typedIndexWords.segments 1 := by
  unfold Builtin.typedIndex
  rw [segments_lines (by repeat' constructor)]
  decide +kernel

/-- **Every built-in set has an index template** under the name of the index of the kinds. -/
theorem exists_indexTemplate {templates : List (String × String)}
    (h : templates ∈ Builtin.sources.map (·.2)) :
    ∃ source t, ∃ w ∈ [plainIndexWords, typedIndexWords],
      templates.lookup "module.j2" = some source ∧
      ofSource (some "module.j2") (Engine.escapes "module.j2") source = .ok t ∧
      t.parts = w.parts ∧ t.escaping = false := by
  have hescapes : Engine.escapes "module.j2" = false := by decide +kernel
  rw [hescapes]
  rcases List.mem_cons.mp h with rfl | h
  · exact ⟨Builtin.plainIndex, _, plainIndexWords, List.mem_cons_self, rfl,
      ofSource_index segments_plainIndex _ _, rfl, rfl⟩
  · rw [List.mem_singleton.mp h]
    exact ⟨Builtin.typedIndex, _, typedIndexWords, List.mem_cons_of_mem _ List.mem_cons_self, rfl,
      ofSource_index segments_typedIndex _ _, rfl, rfl⟩

/-! ## 4. The source of a typed aggregate -/

/-- How a class is imported from a file in a folder to which a way leads. -/
def importLine (way : String) (x : String × String) : String :=
  "import \x7b " ++ x.1 ++ " \x7d from '" ++ (way ++ "/" ++ stripExtension x.2) ++ "';\n"

/-- The tokens of the head of a loop over the entities of a kind. -/
def importHead (kind : Kind) (line : Nat) : List Token :=
  [⟨.name "name", line⟩, ⟨.sign ",", line⟩, ⟨.name kind.text, line⟩, ⟨.name "in", line⟩,
    ⟨.sign "(", line⟩, ⟨.name kind.collection, line⟩, ⟨.name "or", line⟩, ⟨.sign "\x7b", line⟩,
    ⟨.sign "\x7d", line⟩, ⟨.sign ")", line⟩, ⟨.sign ".", line⟩, ⟨.name "items", line⟩,
    ⟨.sign "(", line⟩, ⟨.sign ")", line⟩]

/-- The segments between the head of such a loop and what follows it. -/
def importTail (kind : Kind) (line : Nat) : List Segment :=
  [.text "import \x7b ",
    .output [⟨.name kind.text, line⟩, ⟨.sign ".", line⟩, ⟨.name "className", line⟩],
    .text " \x7d from '",
    .output [⟨.name "kindPaths", line⟩, ⟨.sign ".", line⟩, ⟨.name kind.text, line⟩],
    .text "/",
    .output [⟨.name kind.text, line⟩, ⟨.sign ".", line⟩, ⟨.name "fileName", line⟩,
      ⟨.sign "|", line⟩, ⟨.name "strip_extension", line⟩],
    .text "';\n",
    .statement [⟨.name "endfor", line + 1⟩]]

/-- The segments of such a loop. -/
def importSegments (kind : Kind) (line : Nat) : List Segment :=
  .text "" :: .statement (⟨.name "for", line⟩ :: importHead kind line) :: importTail kind (line + 1)

/-- What such a loop shows of an entity. -/
def importBody (kind : Kind) : List Part :=
  [.text "import \x7b ", .output (.member (.name kind.text) "className"), .text " \x7d from '",
    .output (.member (.name "kindPaths") kind.text), .text "/",
    .output (.filter "strip_extension" (.member (.name kind.text) "fileName") [] []),
    .text "';\n"]

/-- What such a loop goes through, where `nothing` stands for no entities. -/
def importedEntities (kind : Kind) (nothing : Expr) : Expr :=
  .call (.member (.disjunction (.name kind.collection) nothing) "items") [] []

/-- A loop over the entities of a kind. -/
def importLoop (kind : Kind) (nothing : Expr) : Part :=
  .loop (.parts [.name "name", .name kind.text]) (importedEntities kind nothing) none false
    (importBody kind) []

/-- The source of the typed aggregate begins with the segments of the two loops, and it is a template.
    Both are computed at once, as the segments are most of the work. -/
theorem typedAggregate_source :
    (segments Builtin.typedAggregate).take 20 =
        importSegments .command 1 ++ importSegments .event 4 ∧
      (ofSource (some "aggregate.j2") false Builtin.typedAggregate).toOption.isSome = true := by
  unfold ofSource readSource Builtin.typedAggregate
  rw [segments_lines (by repeat' constructor)]
  decide +kernel

/-- **The segments of the typed aggregate** begin with those of the loops over commands and events. -/
theorem segments_typedAggregate : ∃ rest, segments Builtin.typedAggregate =
    importSegments .command 1 ++ (importSegments .event 4 ++ rest) := by
  refine ⟨(segments Builtin.typedAggregate).drop 20, ?_⟩
  rw [← List.append_assoc, ← typedAggregate_source.1, List.take_append_drop]

/-- The template of a typed aggregate can be read. -/
theorem exists_typedAggregate : ∃ t,
    ofSource (some "aggregate.j2") false Builtin.typedAggregate = .ok t :=
  exists_ok_of_isSome typedAggregate_source.2

-- the readers of expressions are run on the tokens of the four tags
set_option maxRecDepth 100000 in
theorem readStatement_import {kind : Kind} (h : kind = .command ∨ kind = .event) (line fuel : Nat)
    (rest : List Segment) :
    readStatement "for" (importHead kind line) ⟨maxDepth⟩ (fuel + 20)
      (importTail kind (line + 1) ++ rest) = .ok (importLoop kind (.mapping []), rest) := by
  rcases h with rfl | rfl
  · cbv
  · cbv

/-- Reading a loop and what follows it. -/
theorem readParts_import {kind : Kind} (hkind : kind = .command ∨ kind = .event) {line fuel : Nat}
    {rest rest' : List Segment} {ps : List Part} {ending : Ending}
    (h : readParts [] ⟨maxDepth⟩ (fuel + 22) (importSegments kind line ++ rest) =
      .ok (ps, ending, rest')) :
    ∃ more, readParts [] ⟨maxDepth⟩ (fuel + 20) rest = .ok (more, ending, rest') ∧
      ps = .text "" :: importLoop kind (.mapping []) :: more := by
  obtain ⟨qs, hqs, rfl⟩ := readParts_text h
  obtain ⟨more, hmore, rfl⟩ := readParts_statement rfl (readStatement_import hkind line fuel rest) hqs
  exact ⟨more, hmore, rfl⟩

/-- Preparing a loop puts the empty mapping in the place of its expression. -/
theorem prepare_import {kind : Kind} (h : kind = .command ∨ kind = .event) (escaping : Bool) :
    (importLoop kind (.mapping [])).prepare escaping false =
      .ok (importLoop kind (.literal (.mapping []))) := by
  rcases h with rfl | rfl
  · rfl
  · rfl

/-- **The template of a typed aggregate begins with the loops over commands and events.** -/
theorem parts_typedAggregate {name : Option String} {escaping : Bool} {t : Template}
    (h : ofSource name escaping Builtin.typedAggregate = .ok t) :
    t.escaping = escaping ∧ ∃ more, t.parts =
      [.text "", importLoop .command (.literal (.mapping [])), .text "",
        importLoop .event (.literal (.mapping []))] ++ more := by
  obtain ⟨parts, hread, hprepared, hescaping⟩ := ofSource_eq_ok h
  obtain ⟨rest, hsegments⟩ := segments_typedAggregate
  unfold readSource at hread
  obtain ⟨⟨read, ending, rest'⟩, hall, heq⟩ := except_bind_eq_ok.mp hread
  cases heq
  have hfuel : 2 * (segments Builtin.typedAggregate).length + 2 = 2 * rest.length + 20 + 22 := by
    rw [hsegments, List.length_append, List.length_append]
    show 2 * (10 + (10 + rest.length)) + 2 = _
    omega
  rw [hfuel, hsegments] at hall
  obtain ⟨qs, hqs, rfl⟩ := readParts_import (Or.inl rfl) hall
  have hqs : readParts [] ⟨maxDepth⟩ (2 * rest.length + 18 + 22) _ = .ok (qs, ending, rest') := hqs
  obtain ⟨rs, _, rfl⟩ := readParts_import (Or.inr rfl) hqs
  have htext : (Part.text "").prepare escaping false = .ok (.text "") := rfl
  obtain ⟨_, hfirst, hparts⟩ := prepareParts_cons htext hprepared
  obtain ⟨_, hsecond, rfl⟩ := prepareParts_cons (prepare_import (Or.inl rfl) escaping) hfirst
  obtain ⟨_, hthird, rfl⟩ := prepareParts_cons htext hsecond
  obtain ⟨more, _, rfl⟩ := prepareParts_cons (prepare_import (Or.inr rfl) escaping) hthird
  exact ⟨hescaping, more, hparts⟩

/-! ## 5. The texts of imports -/

variable {s : Scope} {kind : Kind}

/-- The entities of a kind are in a mapping, if there are any. -/
def Holds (s : Scope) (kind : Kind) (es : Entries) : Prop :=
  s.names.lookup kind.collection = some (.ofData (.mapping es)) ∨
    (s.names.lookup kind.collection = none ∧ es = [])

/-- A loop goes through the entries of the mapping. -/
theorem eval_importedEntities {es : Entries} (h : Holds s kind es) :
    (importedEntities kind (.literal (.mapping []))).eval s =
      .ok (.view .items (Value.ofEntries es)) := by
  have hnothing : (Expr.literal (.mapping [])).eval s = .ok (.mapping []) := by
    rw [Expr.eval]
    rfl
  have hmapping : (Expr.disjunction (.name kind.collection) (.literal (.mapping []))).eval s =
      .ok (.mapping (Value.ofEntries es)) := by
    rcases h with hfound | ⟨hnone, rfl⟩
    · rw [Expr.eval, eval_name hfound]
      cases es with
      | nil => exact hnothing
      | cons e es => rfl
    · have hname : (Expr.name kind.collection).eval s =
          .ok (.undefined (.undefinedName kind.collection)) := by
        rw [Expr.eval, Scope.lookup, hnone]
        cases kind <;> rfl
      rw [Expr.eval, hname]
      exact hnothing
  have hitems : (Expr.member (.disjunction (.name kind.collection) (.literal (.mapping [])))
      "items").eval s = .ok (.method (.mapping (Value.ofEntries es)) "items") := by
    rw [Expr.eval, hmapping]
    dsimp only [bind, Except.bind]
    exact Value.member_items _
  unfold importedEntities
  rw [Expr.eval, hitems]
  rfl

/-- The line of an entity. -/
theorem renderParts_importBody (hs : s.escaping = false) {paths : Entries} {way : String}
    (hpaths : s.names.lookup "kindPaths" = some (.ofData (.mapping paths)))
    (hway : paths.get? kind.text = some (.text way)) {d : Data} {x : String × String}
    (hkind : kind = .command ∨ kind = .event)
    (hentity : s.names.lookup kind.text = some (.ofData d)) (h : Lists d x) :
    renderParts s (importBody kind) = .ok (importLine way x) := by
  obtain ⟨c, rfl, hclass, hfile⟩ := h
  have hname : kind.text ∈ ["className", "fileName", "command", "event"] := by
    rcases hkind with rfl | rfl
    · decide
    · decide
  have hentity := eval_name hentity
  have hclassName := eval_member hentity (Value.isEntryName_of_mem (by decide)) hclass
  have hfileName := eval_member hentity (Value.isEntryName_of_mem (by decide)) hfile
  have hpath := eval_member (eval_name hpaths) (Value.isEntryName_of_mem hname) hway
  have hstem := eval_stripExtension hfileName
  have hline : renderParts s (importBody kind) = .ok ("import \x7b " ++ (x.1 ++ (" \x7d from '" ++
      (way ++ ("/" ++ (stripExtension x.2 ++ ("';\n" ++ ""))))))) :=
    renderParts_cons rfl (renderParts_cons (render_output hs hclassName) (renderParts_cons rfl
      (renderParts_cons (render_output hs hpath) (renderParts_cons rfl
        (renderParts_cons (render_output hs hstem) (renderParts_cons rfl rfl))))))
  rw [hline]
  unfold importLine
  simp only [String.append_empty, String.append_assoc]

/-- **A loop over the entities of a kind imports each of them.** -/
theorem render_importLoop (hs : s.escaping = false) {paths : Entries} {way : String}
    (hpaths : s.names.lookup "kindPaths" = some (.ofData (.mapping paths)))
    (hway : paths.get? kind.text = some (.text way)) (hkind : kind = .command ∨ kind = .event)
    {es : Entries} (hes : Holds s kind es) {xs : List (String × String)}
    (h : List.Forall₂ (fun e x => Lists e.2 x) es xs) :
    (importLoop kind (.literal (.mapping []))).render s =
      .ok (String.join (xs.map (importLine way))) := by
  refine render_loop false (eval_importedEntities hes) rfl ?_
  rw [Value.viewItems, Value.ofEntries_eq_map, List.map_map, List.forall₂_map_left_iff,
    List.forall₂_map_right_iff]
  refine h.imp fun e x he i => ⟨[(kind.text, .ofData e.2), ("name", .ofData e.1)], rfl, ?_⟩
  refine renderParts_importBody (s := s.push _) hs ?_ hway hkind ?_ he
  · rcases hkind with rfl | rfl
    · exact hpaths
    · exact hpaths
  · exact List.lookup_cons_self

/-! ## 6. Main result -/

/-- A context has the way to the folder of a kind, and the classes and files of entities of the
    kind. -/
structure Imports (c : Entries) (kind : Kind) (way : String) (xs : List (String × String)) :
    Prop where
  way : ∃ paths : Entries, c.get? "kindPaths" = some (.mapping paths) ∧
    paths.get? kind.text = some (.text way)
  entities : ∃ es : Entries, (c.get? kind.collection = some (.mapping es) ∨
    (c.get? kind.collection = none ∧ es = [])) ∧ List.Forall₂ (fun e x => Lists e.2 x) es xs

/-- A loop in a template that is given such a context. -/
theorem render_of_imports {c : Entries} {names : List (String × Value)}
    (hnames : contextNames c = .ok names) (template : Option String)
    (hkind : kind = .command ∨ kind = .event) {way : String} {xs : List (String × String)}
    (h : Imports c kind way xs) :
    (importLoop kind (.literal (.mapping []))).render ⟨names, false, template⟩ =
      .ok (String.join (xs.map (importLine way))) := by
  obtain ⟨paths, hpaths, hway⟩ := h.way
  obtain ⟨es, hes, hxs⟩ := h.entities
  refine render_importLoop rfl ?_ hway hkind ?_ hxs
  · exact (lookup_contextNames _ hnames).trans (congrArg (Option.map Value.ofData) hpaths)
  · refine hes.imp (fun hfound => ?_) fun hnone => ⟨?_, hnone.2⟩
    · exact (lookup_contextNames _ hnames).trans (congrArg (Option.map Value.ofData) hfound)
    · exact (lookup_contextNames _ hnames).trans (congrArg (Option.map Value.ofData) hnone.1)

/-- **What the template of a typed aggregate gives begins with the imports** of the commands and of
    the events of the aggregate. -/
theorem render_typedAggregate {name : Option String} {t : Template}
    (ht : ofSource name false Builtin.typedAggregate = .ok t) {c : Entries} {text : String}
    (h : t.render c = .ok text) {way way' : String} {commands events : List (String × String)}
    (hcommands : Imports c .command way commands) (hevents : Imports c .event way' events) :
    ∃ rest, text = String.join (commands.map (importLine way)) ++
      (String.join (events.map (importLine way')) ++ rest) := by
  obtain ⟨hescaping, more, hparts⟩ := parts_typedAggregate ht
  unfold Template.render at h
  obtain ⟨names, hnames, h⟩ := except_bind_eq_ok.mp h
  rw [hescaping, hparts] at h
  obtain ⟨first, rest, hfirst, _, rfl⟩ := renderParts_append_ok h
  have hcommandLoop := render_of_imports hnames t.name (Or.inl rfl) hcommands
  have heventLoop := render_of_imports hnames t.name (Or.inr rfl) hevents
  have htext : ∀ s : Scope, (Part.text "").render s = .ok "" := fun _ => rfl
  have hend : ∀ s : Scope, renderParts s [] = .ok "" := fun _ => rfl
  have hloops := renderParts_cons (htext _) (renderParts_cons hcommandLoop
    (renderParts_cons (htext _) (renderParts_cons heventLoop (hend _))))
  rw [Except.ok.inj (hfirst.symm.trans hloops)]
  refine ⟨rest, ?_⟩
  simp only [String.empty_append, String.append_empty, String.append_assoc]

end DomainGen.Template
