import DomainGen.Command.Run
import DomainGen.Proofs.Config.Outcome
import DomainGen.Proofs.Generation.Results

/-!
# One extension for all files

An extension that is given on the command line becomes a setting of every naming policy and part of
both index names. The explicit entries are merged over the file and the defaults, so nothing in those
has a say, and as an extension stands at the end of a file name it stands at the end of the path.

* `suffix_joinPath` : **joined parts end as the last part does**, if the ending counts in a path;
* `Config.Extended`, `extended_configuration` : the settings of a command line with an extension;
* `Generator.Extended`, `walkPath_suffix` : the paths of a generator whose settings have one extension;
* `generate_extended` : **every file of every model has the extension of the command line**.
-/

namespace DomainGen

open Text

variable {ρ σ : Type}

/-! ## 1. How a joined path ends -/

theorem suffix_intercalate (sep last : List Char) : ∀ front : List (List Char),
    last <:+ sep.intercalate (front ++ [last])
  | [] => by rw [List.nil_append, List.intercalate_singleton]
  | piece :: front => by
      obtain ⟨next, rest, hrest⟩ : ∃ next rest, front ++ [last] = next :: rest :=
        List.exists_cons_of_ne_nil (List.append_ne_nil_of_right_ne_nil front (List.cons_ne_nil _ _))
      have ih := suffix_intercalate sep last front
      rw [List.cons_append]
      rw [hrest] at ih ⊢
      rw [List.intercalate_cons_cons]
      exact ih.trans (List.suffix_append _ _)

/-- The text of a path ends with its last component. -/
theorem Path.suffix_text {p : Path} {front : List String} {last : String}
    (h : p.components = front ++ [last]) : last.toList <:+ p.text.toList := by
  have hsome : (decide (p.root = .relative) && p.components.isEmpty) = false := by
    rw [h, List.isEmpty_eq_false_iff.mpr (List.append_ne_nil_of_right_ne_nil front
      (List.cons_ne_nil _ _)), Bool.and_false]
  unfold Path.text
  rw [hsome, if_neg Bool.false_ne_true, h, String.toList_append, String.toList_intercalate,
    List.map_append]
  exact (suffix_intercalate _ _ _).trans (List.suffix_append _ _)

section Ending

variable {ending : List Char} (hplain : '/' ∉ ending) (hmark : ∃ x ∈ ending, x ≠ '.')

include hplain hmark

/-- What ends a text without being a slash or dots alone ends its last component. -/
theorem Path.exists_last_component {s : String} (h : ending <:+ s.toList) :
    ∃ front last, Path.componentsOf s = front ++ [last] ∧ ending <:+ last.toList := by
  obtain ⟨stem, hs⟩ := h
  obtain ⟨front, last, -, hsplit⟩ := splitAt_append_last hplain stem
  have hcount : Path.isComponent (String.ofList (last ++ ending)) = true := by
    obtain ⟨x, hx, hdot⟩ := hmark
    have hmem : x ∈ (String.ofList (last ++ ending)).toList := by
      rw [String.toList_ofList]
      exact List.mem_append_right last hx
    unfold Path.isComponent
    rw [Bool.and_eq_true, bne_iff_ne, bne_iff_ne]
    constructor
    · intro heq
      rw [heq] at hmem
      exact List.not_mem_nil hmem
    · intro heq
      rw [heq] at hmem
      exact hdot (List.mem_singleton.mp hmem)
  unfold Path.componentsOf
  rw [← hs, hsplit, List.map_append, List.filter_append, List.map_singleton,
    List.filter_cons_of_pos hcount]
  refine ⟨_, _, rfl, ?_⟩
  rw [String.toList_ofList]
  exact List.suffix_append last ending

/-- **Joined parts end as the last part does**, if the ending counts in a path. -/
theorem suffix_joinPath (parts : List String) {name : String} (h : ending <:+ name.toList) :
    ending <:+ (joinPath (parts ++ [name])).toList := by
  obtain ⟨front, last, hname, hlast⟩ := Path.exists_last_component hplain hmark h
  have hjoin : Path.join ((parts ++ [name]).map Path.ofString) =
      (Path.join (parts.map Path.ofString)).append (Path.ofString name) := by
    rw [List.map_append, Path.join_append, List.map_singleton, Path.join_cons]
    exact congrArg _ (Path.append_current _)
  have hcomponents : ∃ before,
      (Path.join ((parts ++ [name]).map Path.ofString)).components = before ++ [last] := by
    rw [hjoin, append_ofString]
    split
    · exact ⟨front, hname⟩
    · refine ⟨(Path.join (parts.map Path.ofString)).components ++ front, ?_⟩
      rw [hname, List.append_assoc]
  obtain ⟨before, hbefore⟩ := hcomponents
  exact hlast.trans (Path.suffix_text hbefore)

end Ending

/-! ## 2. The settings of a command line -/

open Entries

/-- All policies and both index names of a configuration have one extension. -/
structure Config.Extended (c : Config) (extension : String) : Prop where
  policies : ∀ kind, ∃ p : NamingPolicy, c.policyFor kind = .ok p ∧ p.extension = extension
  subModuleName : c.subModuleName = .text ("index" ++ extension)
  rootModuleName : c.rootModuleName = .text ("index" ++ extension)

namespace Command

/-- The settings of a command line have different names, and those an extension stands for are among
    them. -/
theorem overrides_eq (a : Arguments) : ∃ fields, a.overrides = ofFields fields ∧
    (fields.map (·.1)).Nodup ∧ ∀ extension, given? a.extension = some extension →
      ∀ field ∈ extensionEntries (withDot extension), field ∈ fields := by
  have htext : ∀ (name : String) (value : Option String),
      (((given? value).map fun s => (name, Data.text s)).toList.map (·.1)).Sublist [name] := by
    intro name value
    cases given? value with
    | none => exact List.nil_sublist _
    | some s => exact List.Sublist.refl _
  have hextension : ((((given? a.extension).map fun e => extensionEntries (withDot e)).getD []).map
      (·.1)).Sublist ["naming", "sub_module_name", "root_module_name"] := by
    cases given? a.extension with
    | none => exact List.nil_sublist _
    | some s => exact List.Sublist.refl _
  have hflag : ∀ (flag : Bool) (name : String) (value : Data),
      ((if flag then [(name, value)] else []).map (·.1)).Sublist [name] := by
    intro flag name value
    cases flag with
    | false => exact List.nil_sublist _
    | true => exact List.Sublist.refl _
  refine ⟨_, rfl, ?_, fun extension h field hfield => ?_⟩
  · have hall := ((((htext "template_set" a.templateSet).append
      (htext "template_dir" a.templateDir)).append hextension).append
        (hflag a.atomic "atomic" (.bool true))).append
          (hflag a.noEmptyRootIndex "emit_empty_root_index" (.bool false))
    rw [List.map_append, List.map_append, List.map_append, List.map_append]
    exact hall.nodup (by decide)
  · rw [h]
    exact List.mem_append_left _ (List.mem_append_left _ (List.mem_append_right _ hfield))

theorem given?_of_ne {s : String} (h : s ≠ "") : given? (some s) = some s := by
  unfold given?
  split
  · rename_i heq
    exact absurd (Option.some.inj heq) h
  · rfl

/-- What an extension says about a role. -/
def extensionOption (extension : String) : Entries :=
  ofFields [("extension", .text extension)]

/-- What an extension says about all roles. -/
def extensionRoles (extension : String) : Entries :=
  ofFields (namingRoles.map fun role => (role, .mapping (extensionOption extension)))

theorem nodup_extensionRoles (extension : String) : ((namingRoles.map fun role =>
    (role, Data.mapping (extensionOption extension))).map (·.1)).Nodup := by
  have hroles : namingRoles.Nodup := by decide
  rw [List.map_map]
  exact (List.map_id namingRoles).symm ▸ hroles

theorem textsOnce_extensionRoles (extension : String) : (extensionRoles extension).TextsOnce :=
  textsOnce_ofFields (nodup_extensionRoles extension)

theorem get?_extensionRoles {role : String} (h : role ∈ namingRoles) (extension : String) :
    (extensionRoles extension).get? role = some (.mapping (extensionOption extension)) :=
  get?_ofFields (nodup_extensionRoles extension) (List.mem_map_of_mem h)

theorem extensionEntries_eq (extension : String) : extensionEntries extension =
    [("naming", .mapping (extensionRoles extension)),
      ("sub_module_name", .text ("index" ++ extension)),
      ("root_module_name", .text ("index" ++ extension))] := rfl

/-- Policies that are read from roles which an extension was merged into have it. -/
theorem policy_of_roles {es : Entries} {below : Option Data} {extension : String}
    (hroles : es.get? "naming" = some (mergeValue below (.mapping (extensionRoles extension))))
    {naming : List (Data × PolicyOptions)} (h : Config.readNaming es = .ok naming)
    (kind : Option Kind) : ∃ p : NamingPolicy, p.extension = extension ∧
      (naming.find? fun x => x.1.sameKey (.text (roleOf kind))).map (·.2) = some p.options := by
  have hrole : roleOf kind ∈ namingRoles := by
    cases kind with
    | none => decide
    | some k => cases k <;> decide
  obtain ⟨roles, hmerged, hall⟩ := get?_mergeValue_mapping (textsOnce_extensionRoles extension) below
  rw [hmerged] at hroles
  obtain ⟨-, hread⟩ := (Config.readNaming_eq_ok hroles).mp h
  obtain ⟨old, hold⟩ := hall _ _ (get?_extensionRoles hrole extension)
  obtain ⟨p, options, hoptions, hgiven, hfind⟩ := Config.find?_policiesRead hread hold
  have honce : (extensionOption extension).TextsOnce := List.nodup_singleton _
  obtain ⟨merged, hvalue, hoption⟩ := get?_mergeValue_mapping honce old
  obtain ⟨_, hextension⟩ := hoption "extension" (.text extension) rfl
  rw [hvalue] at hoptions
  cases hoptions
  rw [hgiven.extension] at hextension
  exact ⟨p, Data.text.inj (Option.some.inj hextension), hfind⟩

/-- **The configuration of a command line with an extension has that extension throughout**,
    whatever its file and its template set say. -/
theorem extended_configuration {tree : FileTree} {a : Arguments} {extension : String} {c : Config}
    (hgiven : a.extension = some extension) (hne : extension ≠ "")
    (hc : a.configuration tree = .ok c) : c.Extended (withDot extension) := by
  obtain ⟨fields, hfields, hnodup, hmem⟩ := overrides_eq a
  unfold Arguments.configuration at hc
  rw [Config.load_mapping, hfields] at hc
  obtain ⟨fs, hfs, hc⟩ := except_bind_eq_ok.mp hc
  obtain ⟨set, hset, -, hc⟩ := Config.resolve_eq_ok.mp hc
  obtain ⟨naming, templates, custom, hnaming, -, -, heq⟩ := Config.ofEntries_eq_ok.mp hc
  have hover : (ofFields fields).TextsOnce := textsOnce_ofFields hnodup
  have hgiven' : given? a.extension = some extension := hgiven ▸ given?_of_ne hne
  have hsetting : ∀ (name : String) (v : Data), "template_set" ≠ name →
      (name, v) ∈ extensionEntries (withDot extension) → ∃ below,
        (Config.mergedLayers set (ofFields fields) fs).get? name = some (mergeValue below v) := by
    intro name v hname hv
    have hfield := get?_ofFields hnodup (hmem extension hgiven' (name, v) hv)
    rw [Config.get?_layers hover (Config.textsOnce_fromFile hfs) hname, hfield]
    exact ⟨_, rfl⟩
  rw [extensionEntries_eq] at hsetting
  obtain ⟨below, hroles⟩ := hsetting "naming" _ (by decide) List.mem_cons_self
  obtain ⟨_, hsub⟩ := hsetting "sub_module_name" _ (by decide)
    (List.mem_cons_of_mem _ List.mem_cons_self)
  obtain ⟨_, hroot⟩ := hsetting "root_module_name" _ (by decide)
    (List.mem_cons_of_mem _ (List.mem_cons_of_mem _ List.mem_cons_self))
  refine ⟨fun kind => ?_, ?_, ?_⟩
  · obtain ⟨p, hextension, hp⟩ := policy_of_roles hroles hnaming kind
    rw [heq]
    exact ⟨p, Config.policyFor_eq_ok.mpr hp, hextension⟩
  · rw [heq]
    dsimp only
    rw [hsub]
    rfl
  · rw [heq]
    dsimp only
    rw [hroot]
    rfl

/-- A dot in front makes no difference to whether an extension counts in a path. -/
theorem withDot_counts {extension : String} (hplain : '/' ∉ extension.toList)
    (hmark : ∃ x ∈ extension.toList, x ≠ '.') :
    '/' ∉ (withDot extension).toList ∧ ∃ x ∈ (withDot extension).toList, x ≠ '.' := by
  unfold withDot
  split
  · exact ⟨hplain, hmark⟩
  · have hchars : ("." ++ extension).toList = '.' :: extension.toList := by
      rw [String.toList_append]
      rfl
    rw [hchars]
    obtain ⟨x, hx, hdot⟩ := hmark
    refine ⟨fun h => ?_, x, List.mem_cons_of_mem _ hx, hdot⟩
    rcases List.mem_cons.mp h with h | h
    · cases h
    · exact hplain h

end Command

/-! ## 3. The paths of a walk -/

/-- All policies and both index names of a generator have one extension. -/
structure Generator.Extended (g : Generator) (extension : String) : Prop where
  aggregate : g.aggregate.extension = extension
  kinds : ∀ kind, (g.policyOf kind).extension = extension
  subModuleName : g.config.subModuleName = .text ("index" ++ extension)
  rootModuleName : g.config.rootModuleName = .text ("index" ++ extension)

/-- A configuration with one extension has a generator, and it has the extension. -/
theorem Config.Extended.generator {c : Config} {extension : String} (h : c.Extended extension)
    (workingFolder : List String) :
    ∃ g, Generator.ofConfig workingFolder c = .ok g ∧ g.Extended extension := by
  obtain ⟨aggregate, haggregate, ha⟩ := h.policies none
  obtain ⟨command, hcommand, hc⟩ := h.policies (some .command)
  obtain ⟨event, hevent, he⟩ := h.policies (some .event)
  obtain ⟨fault, hfault, hf⟩ := h.policies (some .fault)
  refine ⟨⟨c, workingFolder, aggregate, command, event, fault⟩, ?_, ha, fun kind => ?_,
    h.subModuleName, h.rootModuleName⟩
  · unfold Generator.ofConfig
    rw [haggregate, hcommand, hevent, hfault]
    rfl
  · cases kind with
    | command => exact hc
    | event => exact he
    | fault => exact hf

/-- A file name ends with the extension of its policy. -/
theorem NamingPolicy.suffix_fileName (p : NamingPolicy) (name : String) (owner : Option String) :
    p.extension.toList <:+ (p.fileName name owner).toList := by
  unfold NamingPolicy.fileName
  rw [String.toList_append]
  exact List.suffix_append _ _

section Walk

variable {extension : String} (hplain : '/' ∉ extension.toList)
  (hmark : ∃ x ∈ extension.toList, x ≠ '.') {g : Generator} (hg : g.Extended extension)

include hplain hmark hg

/-- A path under which a walk over named items hands something over ends with the extension. -/
theorem walkPath_suffix {m named : Model} (hm : g.nameModel m = (named, none)) {path : String}
    (h : g.WalkPath named path) : extension.toList <:+ path.toList := by
  have hindex : extension.toList <:+ ("index" ++ extension).toList := by
    rw [String.toList_append]
    exact List.suffix_append _ _
  have htrue : (Data.text ("index" ++ extension)).isTrue = true := by
    show ("index" ++ extension != "") = true
    rw [bne_iff_ne]
    intro hempty
    have hchars := congrArg String.toList hempty
    rw [String.toList_append] at hchars
    exact List.cons_ne_nil _ _ hchars
  cases h with
  | @aggregate a ha =>
      obtain ⟨hnames, -⟩ := g.nameModel_eq_ok hm a ha
      have hfile := g.aggregate.suffix_fileName a.name none
      rw [hg.aggregate] at hfile
      rw [hnames]
      exact suffix_joinPath hplain hmark [g.aggregate.folder] hfile
  | @entity a e ha he =>
      obtain ⟨-, hnames⟩ := g.nameModel_eq_ok hm a ha
      have hfile := (g.policyOf e.kind).suffix_fileName e.name (some a.name)
      rw [hg.kinds e.kind] at hfile
      rw [hnames e he]
      exact suffix_joinPath hplain hmark [(g.policyOf e.kind).folder] hfile
  | @kindIndex folder _ hpath =>
      have hpart : (Data.text ("index" ++ extension)).part? = some ("index" ++ extension) := by
        unfold Data.part?
        rw [htrue]
        rfl
      rw [hg.subModuleName, joinParts_folder, hpart] at hpath
      cases hpath
      exact suffix_joinPath hplain hmark [folder] hindex
  | rootIndex hpath =>
      have hparts : joinParts [.text ("index" ++ extension)] =
          .ok (joinPath ["index" ++ extension]) := by
        unfold joinParts
        rw [List.filter_cons_of_pos htrue]
        rfl
      rw [hg.rootModuleName, hparts] at hpath
      cases hpath
      exact suffix_joinPath hplain hmark [] hindex

end Walk

/-- A fact about the sink holds, and all files listed so far have an ending. -/
def Walk.KeepsTo (I : σ → Prop) (ending : List Char) (w : Walk ρ σ) : Prop :=
  I w.sink ∧ ∀ f ∈ w.files, ending <:+ f.path.toList

/-- Handing over a file with the ending keeps to it. -/
theorem keepsTo_emit {sink : Sink σ} {I : σ → Prop} {ending : List Char}
    (hI : ∀ s f, ending <:+ f.path.toList → I s → I (sink s f).1) (item : Item)
    {f : GeneratedFile} (hf : ending <:+ f.path.toList) :
    Walking.Preserves (Walk.KeepsTo (ρ := ρ) I ending) (emit sink item f) := by
  intro w hw
  have hkept := hI w.sink f hf hw.1
  cases ho : w.owners.lookup f.path with
  | some first =>
      rw [runFrom_emit_taken ho]
      exact hw
  | none =>
      rcases hr : sink w.sink f with ⟨t, _ | fault⟩ <;> rw [hr] at hkept
      · rw [runFrom_emit_accepted ho hr]
        refine ⟨hkept, fun other hother => ?_⟩
        rcases List.mem_append.mp hother with hother | hother
        · exact hw.2 other hother
        · rw [List.mem_singleton.mp hother]
          exact hf
      · rw [runFrom_emit_refused ho hr]
        exact ⟨hkept, hw.2⟩

/-- What no file with the extension destroys in a sink, generating does not destroy, and it lists only
    such files. -/
theorem keepsTo_generate {extension : String} (hplain : '/' ∉ extension.toList)
    (hmark : ∃ x ∈ extension.toList, x ≠ '.') {g : Generator} (hg : g.Extended extension)
    (render : Renderer ρ) {sink : Sink σ} (m : Model) (e : ρ) {s : σ} {I : σ → Prop}
    (hI : ∀ s f, extension.toList <:+ f.path.toList → I s → I (sink s f).1) (hs : I s) :
    I (g.generate render sink m e s).sink ∧
      ∀ gen, (g.generate render sink m e s).outcome = .ok gen →
        ∀ f ∈ gen.files, extension.toList <:+ f.path.toList := by
  unfold Generator.generate
  rcases hm : g.nameModel m with ⟨named, _ | problem⟩
  · have hwalk := g.preserves_walk render (fun _ _ _ h => h)
      (fun item f hf => keepsTo_emit hI item (walkPath_suffix hplain hmark hg hm hf)) (.start e s)
      ⟨hs, fun f hf => absurd hf List.not_mem_nil⟩
    dsimp only
    rcases hrun : (g.walk render sink named).runFrom (.start e s) with ⟨problem | ⟨⟩, w⟩ <;>
      rw [hrun] at hwalk
    · exact ⟨hwalk.1, fun gen h => by cases h⟩
    · refine ⟨hwalk.1, fun gen h => ?_⟩
      cases h
      exact hwalk.2
  · exact ⟨hs, fun gen h => by cases h⟩

/-- A record of files with an ending stays one when such a file is handed over. -/
theorem recorded_keepsTo {sink : Sink σ} {ending : List Char} (s : Recorded σ) (f : GeneratedFile)
    (hf : ending <:+ f.path.toList) (hs : ∀ other ∈ s.files, ending <:+ other.path.toList) :
    ∀ other ∈ (recordingSink sink s f).1.files, ending <:+ other.path.toList := by
  intro other hother
  rcases hr : recordingSink sink s f with ⟨t, _ | fault⟩ <;> rw [hr] at hother
  · rw [(Sink.recordingSink_keeps sink).accepted hr] at hother
    rcases List.mem_append.mp hother with hother | hother
    · exact hs other hother
    · rw [List.mem_singleton.mp hother]
      exact hf
  · rw [(Sink.recordingSink_keeps sink).refused hr] at hother
    exact hs other hother

/-! ## 4. Main result -/

namespace Command

/-- **Every file of every model has the extension of the command line**, with a dot in front, whatever
    the configuration file and the template set say: a configuration that is found has a generator,
    and nothing that it hands over or lists has another extension. The extension must not have a slash,
    and it must have something else than dots. -/
theorem generate_extended (tree : FileTree) (a : Arguments) {extension : String} {c : Config}
    (hgiven : a.extension = some extension) (hmark : ∃ x ∈ extension.toList, x ≠ '.')
    (hplain : '/' ∉ extension.toList) (hc : a.configuration tree = .ok c)
    (workingFolder : List String) : ∃ g, Generator.ofConfig workingFolder c = .ok g ∧
      ∀ {ρ σ : Type} (render : Renderer ρ) (sink : Sink σ) (m : Model) (e : ρ) (s : σ),
        (∀ I : σ → Prop,
          (∀ s f, (withDot extension).toList <:+ f.path.toList → I s → I (sink s f).1) →
            I s → I (g.generate render sink m e s).sink) ∧
        (∀ f ∈ (g.generate render (recordingSink sink) m e ⟨s, []⟩).sink.files,
          (withDot extension).toList <:+ f.path.toList) ∧
        ∀ gen, (g.generate render sink m e s).outcome = .ok gen →
          ∀ f ∈ gen.files, (withDot extension).toList <:+ f.path.toList := by
  have hne : extension ≠ "" := by
    rintro rfl
    obtain ⟨x, hx, -⟩ := hmark
    exact List.not_mem_nil hx
  obtain ⟨hplain, hmark⟩ := withDot_counts hplain hmark
  obtain ⟨g, hg, hextended⟩ := (extended_configuration hgiven hne hc).generator workingFolder
  refine ⟨g, hg, fun {ρ σ} render sink m e s => ⟨fun I hI hs => ?_, ?_, ?_⟩⟩
  · exact (keepsTo_generate hplain hmark hextended render m e hI hs).1
  · exact (keepsTo_generate hplain hmark hextended render m e
      (I := fun r : Recorded σ => ∀ f ∈ r.files, (withDot extension).toList <:+ f.path.toList)
      recorded_keepsTo fun f hf => absurd hf List.not_mem_nil).1
  · exact (keepsTo_generate (I := fun _ => True) hplain hmark hextended render m e
      (fun _ _ _ _ => trivial) trivial).2

/-- A configuration file with other extensions. -/
def otherExtensions : FileTree where
  nodes := [(["c.json"], .file ("\x7b\"naming\": \x7b\"event\": \x7b\"extension\": \".ts\"\x7d\x7d, "
    ++ "\"sub_module_name\": \"all.ts\"\x7d").toUTF8.toList)]
  workingFolder := []

/-- A command line with that file and an extension of its own. -/
def ownExtension : Arguments :=
  { Arguments.standard with config := some "c.json", extension := some "mjs" }

/-- What is handed over for two orders with that command line. -/
def extendedPaths : Except Failure (List String) := do
  let c ← ownExtension.configuration otherExtensions
  let g ← Generator.ofConfig [] c
  return (g.generate countingRenderer (recordingSink memorySink) orders 0 ⟨[], []⟩).sink.files.map
    (·.path)

/-- The configuration file asks for `.ts`, but all paths end in `.mjs`. -/
theorem generate_extended_mjs : extendedPaths.toOption = some ["aggregates/order-aggregate.mjs",
      "events/placed-event.mjs", "aggregates/invoice-aggregate.mjs", "commands/send-command.mjs",
      "events/index.mjs", "commands/index.mjs", "index.mjs"] ∧
    ∃ c g, ownExtension.configuration otherExtensions = .ok c ∧ Generator.ofConfig [] c = .ok g ∧
      ∀ f ∈ (g.generate countingRenderer (recordingSink memorySink) orders 0 ⟨[], []⟩).sink.files,
        ".mjs".toList <:+ f.path.toList := by
  refine ⟨by decide +kernel, ?_⟩
  have hfound : (ownExtension.configuration otherExtensions).toOption.isSome = true := by
    decide +kernel
  obtain ⟨c, hc⟩ := exists_ok_of_isSome hfound
  obtain ⟨g, hg, hall⟩ := generate_extended otherExtensions ownExtension rfl
    ⟨'m', by decide +kernel, by decide⟩ (by decide +kernel) hc []
  exact ⟨c, g, hc, hg, (hall countingRenderer memorySink orders 0 []).2.1⟩

end Command

end DomainGen
