import DomainGen.Command.Session
import DomainGen.Config.File
import DomainGen.Config.Warnings
import DomainGen.Logging

/-!
# The command line

What a command line does: it reads its words, sets up configuration and pipeline, and runs all
inputs through it. Everything it does is a value: the lines on the console, the file tree it leaves
behind, the exit code.

* `runCommand` : a command line that was understood;
* `run` : any command line.
-/

namespace DomainGen.Command

open Console

/-! ## 1. What a run leaves behind -/

/-- What a run leaves behind. -/
structure Result where
  /-- The exit code. -/
  exit : Nat
  /-- The lines on the console. -/
  screen : List String
  /-- The file tree. -/
  tree : FileTree
  /-- The requests made. -/
  requests : List Request
  deriving Repr, Inhabited

/-! ## 2. The template sets -/

/-- The row of a template set: how its files end, the name of its indexes, its folders. -/
def setRow (c : Config) : List String :=
  let policies := namingRoles.filterMap c.optionsOf?
  ["🔧 " ++ c.templateSet.plain, ((c.optionsOf? aggregateRole).map (·.extension.plain)).getD "",
    c.subModuleName.plain, ", ".intercalate (policies.map (·.folder.plain))]

/-- The table of the template sets. -/
def setsTable (configs : List Config) : Table where
  title := "📋 Template Sets"
  box := .rounded
  columns := [⟨"Template Set", .left⟩, ⟨"Extension", .left⟩, ⟨"Index File", .left⟩,
    ⟨"Folders", .left⟩]
  rows := configs.map setRow

/-- What is told about the template sets. -/
def setsScreen : List String :=
  let configs := templateSets.filterMap fun set =>
    (Config.resolve [] [] (some set)).toOption
  [""] ++ (setsTable configs).lines ++ [""]
    ++ panelLines .rounded "💡 Quick Start"
      "Usage: aggregate-codegen model.yaml --template-set NAME"

/-! ## 3. The configuration -/

/-- An extension begins with a dot. -/
def withDot (extension : String) : String :=
  if extension.toList.head? == some '.' then extension else "." ++ extension

/-- The settings an extension stands for: that of all files and of both indexes. -/
def extensionEntries (extension : String) : List (String × Data) :=
  let option : Data := .mapping (Entries.ofFields [("extension", .text extension)])
  [("naming", .mapping (Entries.ofFields (namingRoles.map fun r => (r, option)))),
    ("sub_module_name", .text ("index" ++ extension)),
    ("root_module_name", .text ("index" ++ extension))]

/-- The settings a command line gives. -/
def Arguments.overrides (a : Arguments) : Entries :=
  let text (name : String) (value : Option String) : List (String × Data) :=
    ((given? value).map fun s => (name, Data.text s)).toList
  Entries.ofFields (text "template_set" a.templateSet ++ text "template_dir" a.templateDir
    ++ (((given? a.extension).map fun e => extensionEntries (withDot e)).getD [])
    ++ (if a.atomic then [("atomic", .bool true)] else [])
    ++ (if a.noEmptyRootIndex then [("emit_empty_root_index", .bool false)] else []))

/-- The configuration of a command line. -/
def Arguments.configuration (tree : FileTree) (a : Arguments) : Except Failure Config :=
  Config.load tree (.mapping a.overrides) a.config none

/-- What is told about warnings, if there are any. -/
def warningLines (ws : List ConfigWarning) : List String :=
  if ws.isEmpty then []
  else linesOf "\n⚠️  Configuration warnings:"
    ++ ws.flatMap (fun w => linesOf ("  • " ++ w.message)) ++ [""]

/-! ## 4. Running -/

/-- How a failure that ends a run is told. Errors in a configuration are expected; while the
    configuration is read they are told as such. -/
def failureText (whileReading : Bool) (f : Failure) : String :=
  match f with
  | .config e =>
    "✗ Error: " ++ (if whileReading then "Configuration error: " else "") ++ e.message
  | f => "✗ Unexpected error: " ++ f.message

/-- A run that ends with a failure. -/
def endWith (screen : List String) (tree : FileTree) (requests : List Request) (text : String) :
    Result :=
  ⟨1, screen ++ linesOf text, tree, requests⟩

/-- Runs all inputs through a pipeline to a sink, after some lines on the console. -/
def runInputs {ρ σ : Type} (sink : Sink σ) (treeOf : σ → FileTree) (destination : Destination)
    (start : σ) (w : World) (a : Arguments) (p : Pipeline ρ) (screen : List String) : Result :=
  let s : Session ρ σ := { Session.start p start with screen }
  match inputsOf w.tree a with
  | .error f => endWith screen (treeOf start) [] (failureText false (.fault f))
  | .ok inputs =>
    match s.serve sink treeOf w inputs with
    | (s, some f) =>
      endWith s.screen (treeOf s.stream.sink) s.requests (failureText false f)
    | (s, none) =>
      let s := s.finish (a.dryRun || a.verbose) destination
      ⟨s.exitCode, s.screen, treeOf s.stream.sink, s.requests⟩

/-- Runs a command line with a pipeline. A dry run keeps the files in memory, any other writes them
    below the output folder. -/
def runPipeline {ρ : Type} (w : World) (a : Arguments) (p : Pipeline ρ) (screen : List String) :
    Result :=
  if a.dryRun then
    runInputs memorySink (fun _ => w.tree) .dryRun [] w a p screen
  else if a.cleared.contains .output then
    endWith screen w.tree [] (failureText false (.fault .wrongKind))
  else
    let root := Path.ofString a.output
    runInputs (directorySink root defaultEncoding) Directory.tree (.folder root.text) ⟨w.tree, []⟩
      w a p screen

/-- The lines of the warnings about a configuration, if they are asked for. -/
def warningsOf (a : Arguments) (c : Config) : Except Fault (List String) :=
  if a.verbose then c.warnings.map warningLines else .ok []

/-- Runs a command line that was understood. -/
def runCommand (w : World) (a : Arguments) : Result :=
  if a.listTemplateSets then ⟨0, setsScreen, w.tree, []⟩
  else if !a.namesInput then
    endWith [] w.tree [] "✗ Input source required (FILE, --url, or --stdin)"
  else match a.configuration w.tree with
    | .error f => endWith [] w.tree [] (failureText true f)
    | .ok c => match warningsOf a c with
      | .error f => endWith [] w.tree [] (failureText false (.fault f))
      | .ok screen => match Pipeline.ofConfig w.tree c with
        | .error f => endWith screen w.tree [] (failureText false f)
        | .ok p => runPipeline w a p screen

/-! ## 5. Any command line -/

/-- The name of the command. -/
def commandName : String := "aggregate-codegen"

/-- What a command line leads to. -/
inductive Answer where
  /-- Help. -/
  | help
  /-- An error in the command line itself. -/
  | misuse (e : UsageError)
  /-- A log that cannot be set up. -/
  | failed (f : Fault)
  /-- A run, with the log set up for it. -/
  | ran (result : Result) (log : Logging)
  deriving Repr, Inhabited

/-- How an error in the command line is told. -/
def UsageError.line (e : UsageError) : String := commandName ++ ": error: " ++ e.message

/-- The exit code. -/
def Answer.exit : Answer → Nat
  | help => 0
  | misuse _ => 2
  | failed _ => 1
  | ran r _ => r.exit

/-- Runs any command line. -/
def run (w : World) (line : List String) : Answer :=
  match Arguments.read line with
  | .error .help => .help
  | .error (.misuse e) => .misuse e
  | .ok a =>
    if a.cleared.contains .logLevel then .failed .wrongKind
    else .ran (runCommand w a) (Logging.unset.setUp (Level.ofName a.logLevel) .console)

end DomainGen.Command
