import DomainGen.Config.Resolution
import DomainGen.FileTree
import DomainGen.Json.Reader
import DomainGen.Json.Writer
import DomainGen.Text.Case
import DomainGen.Yaml.Value

/-!
# Configuration files

A configuration file holds a mapping in JSON or YAML; its extension says which. What a YAML alias stands
for is read as a value of its own. Configurations are saved as JSON.

* `readConfigFile` : the entries of a file;
* `Config.load` : a configuration of explicit entries and a file;
* `Config.save` : the file of a configuration.
-/

namespace DomainGen

/-- The formats of configuration files. -/
inductive ConfigFormat where
  | json
  | yaml
  deriving DecidableEq, Repr, Inhabited

/-- The format of a path, by its extension in letters of any case. -/
def ConfigFormat.ofPath? (p : Path) : Option ConfigFormat :=
  match Text.lowerString p.suffix with
  | ".json" => some .json
  | ".yaml" => some .yaml
  | ".yml" => some .yaml
  | _ => none

/-- The value of a configuration file's text. A YAML text whose value counts as false holds no
    entries. -/
def readConfigText (format : ConfigFormat) (path text : String) : Except Failure Data :=
  match format with
  | .json => match Json.read text with
    | .ok x => .ok x
    | .error .malformed => .error (.config (.invalidJson path text))
    | .error .tooManyDigits => .error (.fault .badValue)
  | .yaml => match Yaml.read text with
    | .ok x => .ok (if x.isTrue then x else .mapping [])
    | .error .malformed => .error (.config (.invalidYaml path text))
    | .error (.fault f) => .error (.fault f)

/-- A fault of the file system is an error of the given kind; other faults stay what they are. -/
def Fault.orUnreadable (e : SystemError → ConfigError) : Fault → Failure
  | .system cause => .config (e cause)
  | f => .fault f

/-- The entries of a configuration file. -/
def readConfigFile (tree : FileTree) (file : String) : Except Failure Entries := do
  let p := Path.ofString file
  let path := p.text
  if !(← (tree.exists? p).mapError .fault) then throw (.config (.fileNotFound path))
  match ConfigFormat.ofPath? p with
  | none => throw (.config (.fileFormat path))
  | some format =>
    let text ← (tree.readText p "utf-8").mapError (Fault.orUnreadable (.fileUnreadable path))
    match ← readConfigText format path text with
    | .mapping es => return es
    | _ => throw (.config (.fileNotMapping path))

namespace Config

/-- Explicit entries: a value that counts as false has none, any other must be a mapping. -/
def overridesOf (custom : Data) : Except Failure Entries :=
  if !custom.isTrue then .ok []
  else match custom with
    | .mapping es => .ok es
    | _ => .error (.fault .missingMember)

/-- A configuration of explicit entries, a file and a set to use if neither names one. -/
def load (tree : FileTree) (custom : Data) (file : Option String) (asked : Option String) :
    Except Failure Config := do
  let fromFile ← match file with
    | none => .ok []
    | some "" => .ok []
    | some f => readConfigFile tree f
  resolve (← overridesOf custom) fromFile asked

/-- The JSON text of a configuration. -/
def text (c : Config) : Except Fault String := do
  Json.write (.mapping (← c.entries))

/-- What is written of a configuration without a JSON text. -/
def begun (c : Config) : String :=
  match c.entries with
  | .error _ => ""
  | .ok es => Json.begun (.mapping es)

/-- Saves a configuration. One without a JSON text leaves a file behind with what comes before the first
    part that has none. -/
def save (tree : FileTree) (c : Config) (file : String) : FileTree × Option Failure :=
  let p := Path.ofString file
  let (tree, opened) := tree.writeText p "utf-8" ""
  match opened with
  | some f => (tree, some (f.orUnreadable (.notSaved p.text)))
  | none => match c.text with
    | .error f => ((tree.writeText p "utf-8" c.begun).1, some (.fault f))
    | .ok s => match tree.writeText p "utf-8" s with
      | (tree, some f) => (tree, some (f.orUnreadable (.notSaved p.text)))
      | (tree, none) => (tree, none)

end Config

end DomainGen
