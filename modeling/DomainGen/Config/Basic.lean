import DomainGen.Config.Policy
import DomainGen.Data.Sequence

/-!
# Configurations

The settings of a run: which templates, how files are named and where they go, what is written. The
settings that templates and sinks look at are plain values, as the configuration gave them.

* `Config` : the settings; `Config.standard` : those without any configuration;
* `Config.policyFor`, `Config.templateFor` : looking up by role;
* `Config.entries` : the settings as plain data. Custom entries stand beside the settings and hide
  those with the same name.
-/

namespace DomainGen

/-! ## 1. Roles -/

/-- The role of aggregates. -/
def aggregateRole : String := "aggregate"

/-- The role of the index of a kind. -/
def subModuleRole : String := "sub_module"

/-- The role of the index of the kinds. -/
def rootModuleRole : String := "root_module"

/-- The role of a kind, or of aggregates. -/
def roleOf : Option Kind → String
  | none => aggregateRole
  | some k => k.text

/-- The roles with a naming policy. -/
def namingRoles : List String := aggregateRole :: Kind.all.map Kind.text

/-- The roles with a template. -/
def templateRoles : List String := namingRoles ++ [subModuleRole, rootModuleRole]

/-! ## 2. Defaults -/

/-- The built-in template sets, in order. -/
def templateSets : List String := ["es6", "typescript"]

/-- The set that is used when none is named. -/
def defaultTemplateSet : String := "es6"

/-- The templates of the roles. -/
def defaultTemplates : Entries :=
  Entries.ofFields ((namingRoles.map fun r => (r, .text (r ++ ".j2")))
    ++ [(subModuleRole, .text "module.j2"), (rootModuleRole, .text "module.j2")])

/-- The policy of a role when files have a given extension. -/
def defaultPolicy (extension : String) (kind : Option Kind) : NamingPolicy :=
  match kind with
  | none => ⟨extension, "aggregates", "Aggregate", false⟩
  | some k => ⟨extension, k.collection, k.title, false⟩

/-- The policies of the roles when files have a given extension. -/
def defaultNaming (extension : String) : List (Data × PolicyOptions) :=
  (none :: Kind.all.map some).map fun k => (.text (roleOf k), (defaultPolicy extension k).options)

/-! ## 3. Settings -/

/-- The settings of a run. -/
structure Config where
  /-- The template set. -/
  templateSet : Data
  /-- A folder with templates that come before those of the set. -/
  templateDir : Data
  /-- The encoding of template files. -/
  templateEncoding : Data
  /-- The templates by role. -/
  templates : Data
  /-- The options of the naming policies by role. -/
  naming : List (Data × PolicyOptions)
  /-- The name of the index of a kind. -/
  subModuleName : Data
  /-- The name of the index of the kinds. -/
  rootModuleName : Data
  /-- Is an index of the kinds written when there are none? -/
  emitEmptyRootIndex : Data
  /-- Is a document written only when all of it could be generated? -/
  atomic : Data
  /-- Other entries. -/
  custom : Data
  deriving Repr, Inhabited

namespace Config

/-- The settings without any configuration. -/
def standard : Config where
  templateSet := .text defaultTemplateSet
  templateDir := .null
  templateEncoding := .text "utf-8"
  templates := .mapping defaultTemplates
  naming := defaultNaming ".js"
  subModuleName := .text "index.js"
  rootModuleName := .text "index.js"
  emitEmptyRootIndex := .bool true
  atomic := .bool false
  custom := .mapping []

/-- The names of the settings, in order. -/
def fieldNames : List String :=
  ["template_set", "template_dir", "template_encoding", "templates", "naming", "sub_module_name",
    "root_module_name", "emit_empty_root_index", "atomic", "custom"]

/-- The options of the naming policy of a role, if there are any. -/
def optionsOf? (c : Config) (role : String) : Option PolicyOptions :=
  (c.naming.find? fun e => e.1.sameKey (.text role)).map (·.2)

/-- The options of the naming policy of a kind, or of aggregates. -/
def optionsFor (c : Config) (kind : Option Kind) : Except ConfigError PolicyOptions :=
  match c.optionsOf? (roleOf kind) with
  | some o => .ok o
  | none => .error (.noPolicy (roleOf kind))

/-- The naming policy of a kind, or of aggregates. -/
def policyFor (c : Config) (kind : Option Kind) : Except Failure NamingPolicy := do
  match (← (c.optionsFor kind).mapError .config).policy? with
  | some p => return p
  | none => throw (.fault .wrongKind)

/-- The template of a role. Only a mapping can be asked for one. -/
def templateFor (c : Config) (role : String) : Except Failure Data :=
  match c.templates with
  | .mapping es => match Entries.get? es role with
    | some t => .ok t
    | none => .error (.config (.noTemplate role))
  | _ => .error (.fault .wrongKind)

/-- The naming policies as entries. -/
def namingEntries (c : Config) : Entries :=
  c.naming.map fun (role, o) => (role, .mapping o.entries)

/-- The settings other than the custom entries, as entries. -/
def ownEntries (c : Config) : Entries :=
  Entries.ofFields [("template_set", c.templateSet), ("template_dir", c.templateDir),
    ("template_encoding", c.templateEncoding), ("templates", c.templates),
    ("naming", .mapping c.namingEntries), ("sub_module_name", c.subModuleName),
    ("root_module_name", c.rootModuleName), ("emit_empty_root_index", c.emitEmptyRootIndex),
    ("atomic", c.atomic)]

/-- The settings as entries. A custom entry with the name of a setting takes its place. -/
def entries (c : Config) : Except Fault Entries := do
  return c.ownEntries.update (← c.custom.asEntries)

/-- Are two configurations the same? The order of entries does not matter. -/
def same (a b : Config) : Bool :=
  Data.equal (.mapping a.ownEntries) (.mapping b.ownEntries) && a.custom.equal b.custom

end Config

end DomainGen
