import DomainGen.Fault
import DomainGen.Naming
import DomainGen.Template.Syntax

/-!
# Failures

Every way a run can end without a result, by its cause, and the wording of each in one place.

* `Item` : what a generated file stands for, and how messages call it;
* `ConfigError`, `ModelError`, `TemplateError`, `RegistryError`, `Collision`, `LoadError` : the
  errors of the domain, each with its `message`;
* `Failure` : one of them, or a fault (`DomainGen/Fault.lean`).

Where the cause is foreign (a text that is no YAML, the source of a template, a refusal of the file
system) the message names where it was met and does not go into the words of those who tell of it. What
these words depend on is in the error: the text, the source, the template with what it was given. So
errors that are equal are told in the same words.
-/

namespace DomainGen

/-! ## 1. Items -/

/-- What a generated file stands for. -/
inductive Item where
  /-- An aggregate, by its key. -/
  | aggregate (name : String)
  /-- An entity, by the key of its aggregate and its own. -/
  | entity (kind : Kind) (owner name : String)
  /-- The index of a kind. -/
  | kindIndex (kind : Kind)
  /-- The index of the kinds. -/
  | rootIndex
  deriving DecidableEq, Repr, Inhabited

/-- How messages call an item. -/
def Item.label : Item → String
  | aggregate name => "aggregate '" ++ name ++ "'"
  | entity kind owner name => kind.text ++ " '" ++ owner ++ "." ++ name ++ "'"
  | kindIndex kind => kind.text ++ " index"
  | rootIndex => "root index"

/-! ## 2. Templates -/

/-- An error of the template engine. -/
inductive TemplateError where
  /-- The folder of templates is not there. -/
  | folderNotFound (path : String)
  /-- There is no such built-in set. -/
  | unknownSet (name : String) (available : List String)
  /-- Templates that a configuration names are not there. -/
  | missing (names : List String)
  /-- A template is not there. -/
  | notFound (name : String)
  /-- The source of a template is not valid. -/
  | invalid (name source : String)
  /-- The source of a template that was given as a text is not valid. -/
  | invalidText (source : String)
  /-- A template cannot be rendered with what it was given; one without a name was given as a text. -/
  | notRendered (name : Option String) (template : Template) (context : Entries)
      (cause : Template.RenderFault)
  deriving Repr, Inhabited

/-- A message with a detail after a colon, where there is one. -/
def withDetail (message : String) (detail : Option String) : String :=
  match detail with
  | some d => message ++ ": " ++ d
  | none => message

/-- The wording of a template error. -/
def TemplateError.message : TemplateError → String
  | folderNotFound path => "Template directory not found: " ++ path
  | unknownSet name available =>
    "Unknown template set: " ++ name ++ ". Available: " ++ ", ".intercalate available
  | missing names => "Missing template(s): " ++ ", ".intercalate names
  | notFound name => "Error loading template " ++ name ++ ": not found"
  | invalid name _ => "Error loading template " ++ name
  | invalidText _ => "Failed to render template string"
  | notRendered (some name) _ _ cause =>
    withDetail ("Failed to render template " ++ name) cause.detail
  | notRendered none _ _ cause => withDetail "Failed to render template string" cause.detail

/-! ## 3. Configurations -/

/-- An error in a configuration. -/
inductive ConfigError where
  | policyNotMapping (role : String)
  | unknownOptions (role : String) (names : List String)
  | missingOptions (role : String) (names : List String)
  | optionNotText (role name : String)
  | optionNotBool (role : String)
  | noPolicy (role : String)
  | noTemplate (role : String)
  | unknownSet (name : String) (available : List String)
  | namingNotMapping
  | unknownNamingRoles (names : List String)
  | unknownTemplateRoles (names : List String)
  | fileNotFound (path : String)
  | fileFormat (path : String)
  | invalidJson (path text : String)
  | invalidYaml (path text : String)
  | fileUnreadable (path : String) (cause : SystemError)
  | fileNotMapping (path : String)
  | notSaved (path : String) (cause : SystemError)
  /-- The templates a configuration names cannot be set up. -/
  | templates (cause : TemplateError)
  deriving Repr, Inhabited

/-- The wording of a configuration error. -/
def ConfigError.message : ConfigError → String
  | policyNotMapping role => "Naming policy for '" ++ role ++ "' must be a mapping"
  | unknownOptions role names =>
    "Unknown naming option(s) for '" ++ role ++ "': " ++ ", ".intercalate names
  | missingOptions role names =>
    "Naming policy for '" ++ role ++ "' is missing: " ++ ", ".intercalate names
  | optionNotText role name => "Naming option '" ++ role ++ "." ++ name ++ "' must be a string"
  | optionNotBool role => "Naming option '" ++ role ++ ".prefix_aggregate_name' must be a boolean"
  | noPolicy role => "No naming policy configured for '" ++ role ++ "'"
  | noTemplate role => "No template configured for '" ++ role ++ "'"
  | unknownSet name available =>
    "Unknown template set: " ++ name ++ ". Available: " ++ ", ".intercalate available
  | namingNotMapping => "'naming' must be a mapping"
  | unknownNamingRoles names => "Unknown naming role(s): " ++ ", ".intercalate names
  | unknownTemplateRoles names => "Unknown template role(s): " ++ ", ".intercalate names
  | fileNotFound path => "Configuration file not found: " ++ path
  | fileFormat path => "Configuration file must be JSON or YAML: " ++ path
  | invalidJson path _ => "Invalid JSON in configuration file " ++ path
  | invalidYaml path _ => "Invalid YAML in configuration file " ++ path
  | fileUnreadable path _ => "Failed to load configuration file " ++ path
  | fileNotMapping path => "Configuration file must contain a mapping: " ++ path
  | notSaved path _ => "Failed to save configuration to " ++ path
  | templates cause => cause.message

/-! ## 4. Models -/

/-- An error in a model. -/
inductive ModelError where
  /-- The document is not a mapping. -/
  | notMapping
  /-- The document has no section of aggregates. -/
  | noAggregates
  /-- The section of aggregates is of another kind. -/
  | aggregatesNotMapping (kindName : String)
  /-- A collection of an aggregate is of another kind. -/
  | collectionNotMapping (owner : String) (kind : Kind) (kindName : String)
  /-- An aggregate or an entity is of another kind. -/
  | itemNotMapping (item : Item) (kindName : String)
  /-- An item has its names already. -/
  | alreadyNamed (item : Item)
  /-- There is no aggregate with this key. -/
  | unknownAggregate (name : String)
  deriving DecidableEq, Repr, Inhabited

/-- The wording of a model error. -/
def ModelError.message : ModelError → String
  | notMapping => "Model document must be a mapping"
  | noAggregates => "Model document has no 'aggregates' section"
  | aggregatesNotMapping kindName => "'aggregates' must be a mapping, got " ++ kindName
  | collectionNotMapping owner kind kindName =>
    "'" ++ owner ++ "." ++ kind.collection ++ "' must be a mapping, got " ++ kindName
  | itemNotMapping item kindName => item.label ++ " must be a mapping, got " ++ kindName
  | alreadyNamed item => item.label ++ " is already named"
  | unknownAggregate name => "Unknown aggregate: " ++ name

/-! ## 5. Collections, collisions, inputs -/

/-- An error of the registry of collections. -/
inductive RegistryError where
  /-- A kind was registered with another folder. -/
  | otherFolder (kind : Kind) (current path folder : String)
  /-- A kind was never registered. -/
  | notRegistered (kind : Kind)
  deriving DecidableEq, Repr, Inhabited

/-- The wording of a registry error. -/
def RegistryError.message : RegistryError → String
  | otherFolder kind current path folder =>
    "Kind '" ++ kind.text ++ "' already uses folder '" ++ current ++ "', cannot register '" ++ path
      ++ "' in '" ++ folder ++ "'"
  | notRegistered kind => "Kind '" ++ kind.text ++ "' has not been registered"

/-- Two items of one walk have the same output path. -/
structure Collision where
  /-- The path. -/
  path : String
  /-- The item that came first. -/
  first : Item
  /-- The item that came second. -/
  second : Item
  deriving DecidableEq, Repr, Inhabited

/-- The wording of a collision. -/
def Collision.message (c : Collision) : String :=
  c.second.label ++ " would overwrite " ++ c.first.label ++ " at '" ++ c.path ++ "'"

/-- Why the text of a file cannot be had. -/
inductive ReadCause where
  /-- The file system refuses. -/
  | system (cause : SystemError)
  /-- The bytes of the file are no text in the encoding. -/
  | undecodable (bytes : List UInt8) (encoding : String)
  deriving DecidableEq, Repr, Inhabited

/-- An input cannot be read. -/
inductive LoadError where
  | invalidYaml (source text : String)
  | fileNotFound (path : String)
  | fileUnreadable (path : String) (cause : ReadCause)
  | invalidUrl (url : String)
  | timeout (url : String)
  | connection (url : String)
  | http (status : Nat) (url : String)
  | request (url reason : String)
  deriving DecidableEq, Repr, Inhabited

/-- The wording of a loading error. -/
def LoadError.message : LoadError → String
  | invalidYaml source _ => "Invalid YAML in " ++ source
  | fileNotFound path => "File not found: " ++ path
  | fileUnreadable path _ => "Error reading file " ++ path
  | invalidUrl url => "Invalid URL: " ++ url
  | timeout url => "Request timeout for URL: " ++ url
  | connection url => "Connection error for URL: " ++ url
  | http status url =>
    "HTTP error " ++ String.ofList (Nat.toDigits 10 status) ++ " for URL: " ++ url
  | request url _ => "Request error for URL " ++ url

/-! ## 6. All of them -/

/-- A failure. -/
inductive Failure where
  | config (e : ConfigError)
  | model (e : ModelError)
  | template (e : TemplateError)
  | naming (e : NamingError)
  | registry (e : RegistryError)
  | collision (c : Collision)
  | loading (e : LoadError)
  | fault (f : Fault)
  deriving Repr, Inhabited

/-- The wording of a failure; a fault has none of its own. -/
def Failure.message? : Failure → Option String
  | config e => some e.message
  | model e => some e.message
  | template e => some e.message
  | naming e => some e.message
  | registry e => some e.message
  | collision c => some c.message
  | loading e => some e.message
  | fault _ => none

/-- The failure in words. -/
def Failure.message (f : Failure) : String :=
  match f with
  | .fault e => e.message
  | other => other.message?.getD ""

/-- Whether something ends in a fault can be decided, whatever else it may end in. -/
instance decidableEqFault {α : Type} (x : Except Failure α) (f : Fault) :
    Decidable (x = .error (.fault f)) :=
  match x with
  | .error (.fault g) => decidable_of_iff (g = f)
      ⟨congrArg (Except.error ∘ Failure.fault), fun h => Failure.fault.inj (Except.error.inj h)⟩
  | .error (.config _) | .error (.model _) | .error (.template _) | .error (.naming _)
  | .error (.registry _) | .error (.collision _) | .error (.loading _) | .ok _ => isFalse nofun

end DomainGen
