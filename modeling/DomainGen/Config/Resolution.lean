import DomainGen.Config.Basic
import DomainGen.Config.Merge
import DomainGen.Data.Text

/-!
# Resolving a configuration

A configuration is made of three layers: the defaults of a template set, the entries of a
configuration file, the entries given explicitly. Later layers override earlier ones at any depth.
What results is checked and turned into settings.

* `Config.resolve` : from the two layers of entries to settings;
* `Config.ofEntries` : from the merged entries to settings. Entries that are no settings are kept as
  custom entries.
-/

namespace DomainGen

namespace Config

/-! ## 1. Layers -/

/-- The templates the set has besides or instead of those of every set. -/
def setTemplates (set : String) : List (String × Data) :=
  if set == "typescript" then
    [("templates", .mapping (Entries.ofFields [(subModuleRole, .text "index.j2")]))]
  else []

/-- The extension of the files of a set. -/
def setExtension (set : String) : String :=
  if set == "typescript" then ".ts" else ".js"

/-- The policy of a role as a set gives it: aggregates have no owner to name. -/
def setPolicy (extension : String) (kind : Option Kind) : Data :=
  let es := (defaultPolicy extension kind).options.entries
  .mapping (match kind with
    | none => es.without (.text NamingPolicy.prefixOption)
    | some _ => es)

/-- The defaults of a set. -/
def setDefaults (set : String) : Entries :=
  let ext := setExtension set
  Entries.ofFields ([("template_set", .text set),
    ("naming", .mapping (Entries.ofFields
      ((none :: Kind.all.map some).map fun k => (roleOf k, setPolicy ext k)))),
    ("sub_module_name", .text ("index" ++ ext)),
    ("root_module_name", .text ("index" ++ ext))] ++ setTemplates set)

/-- The first of some values that counts as true. -/
def firstTrue (default : Data) : List (Option Data) → Data
  | [] => default
  | some x :: rest => if x.isTrue then x else firstTrue default rest
  | none :: rest => firstTrue default rest

/-- The set that is asked for: by the explicit entries, else by the file, else by name. -/
def chosenSet (overrides file : Entries) (asked : Option String) : Data :=
  firstTrue (.text defaultTemplateSet)
    [overrides.get? "template_set", file.get? "template_set", asked.map Data.text]

/-! ## 2. Checks -/

/-- The naming policies of the merged entries. -/
def readNaming (es : Entries) : Except Failure (List (Data × PolicyOptions)) := do
  match es.get? "naming" with
  | none => return []
  | some (.mapping roles) =>
    refuseUnknown roles namingRoles .unknownNamingRoles
    roles.mapM fun (role, data) => do
      return (role, (← NamingPolicy.ofData role.plain data).options)
  | some _ => throw (.config .namingNotMapping)

/-- A value that may be left out: entries of a mapping, or none if it counts as false. -/
def optionalEntries (x : Option Data) : Except Failure Entries :=
  match x with
  | none => .ok []
  | some x => if x.isTrue then x.asEntries.mapError .fault else .ok []

/-- The templates of the merged entries. -/
def readTemplates (es : Entries) : Except Failure Entries := do
  let given ← optionalEntries (es.get? "templates")
  let templates := defaultTemplates.update given
  refuseUnknown templates templateRoles .unknownTemplateRoles
  return templates

/-- Is it the name of a setting? -/
def isField : Data → Bool
  | .text s => fieldNames.contains s
  | _ => false

/-- The custom entries: those given as such, and the entries that are no settings. -/
def readCustom (es : Entries) : Except Failure Data := do
  let others : Entries := es.filter fun e => !isField e.1
  if others.isEmpty then return (es.get? "custom").getD (.mapping [])
  else
    let given ← optionalEntries (es.get? "custom")
    return .mapping (given.update others)

/-- The settings that merged entries denote. -/
def ofEntries (es : Entries) : Except Failure Config := do
  let naming ← readNaming es
  let templates ← readTemplates es
  let custom ← readCustom es
  let setting (name : String) (default : Data) : Data := (es.get? name).getD default
  return {
    templateSet := setting "template_set" standard.templateSet
    templateDir := setting "template_dir" standard.templateDir
    templateEncoding := setting "template_encoding" standard.templateEncoding
    templates := .mapping templates
    naming
    subModuleName := setting "sub_module_name" standard.subModuleName
    rootModuleName := setting "root_module_name" standard.rootModuleName
    emitEmptyRootIndex := setting "emit_empty_root_index" standard.emitEmptyRootIndex
    atomic := setting "atomic" standard.atomic
    custom }

/-! ## 3. Resolution -/

/-- A configuration of explicit entries and those of a file. `asked` names the set to use if
    neither names one. -/
def resolve (overrides file : Entries) (asked : Option String) : Except Failure Config := do
  let set := chosenSet overrides file asked
  if !set.hashable then throw (.fault .wrongKind)
  match set with
  | .text name =>
    if templateSets.contains name then
      let merged := mergeEntries (mergeEntries (setDefaults name) file) overrides
      ofEntries (merged.set "template_set" set)
    else throw (.config (.unknownSet name templateSets))
  | other => throw (.config (.unknownSet (← other.asText.mapError .fault) templateSets))

end Config

end DomainGen
