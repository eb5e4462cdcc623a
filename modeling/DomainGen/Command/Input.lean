import DomainGen.Command.Arguments
import DomainGen.Loading.Source
import DomainGen.Pipeline
import DomainGen.Text.Case

/-!
# Inputs of a run

The documents a command line names: those of its files and folders, then that of its URL, then that
of the standard input.

* `expandPaths` : files and folders, with every folder replaced by the model files below it;
* `inputsOf` : all inputs;
* `Input.read` : the document of an input. A document is read when its turn comes, so it is found as
  the documents before it have left it.
-/

namespace DomainGen.Command

open Text

/-- What a run can see beside its arguments. -/
structure World where
  /-- The file tree. -/
  tree : FileTree
  /-- The text of the standard input. -/
  stdin : String
  /-- What the network answers. -/
  web : Web

/-! ## 1. Files and folders -/

/-- The extensions of model files. -/
def modelSuffixes : List String := [".yaml", ".yml"]

/-- Is it the name of a model file? -/
def isModelPath (p : Path) : Bool := modelSuffixes.contains (lowerString p.suffix)

/-- Does a list of components come before another one? -/
def componentsLE : List String → List String → Bool
  | [], _ => true
  | _ :: _, [] => false
  | a :: as, b :: bs => if a == b then componentsLE as bs else decide (a < b)

/-- The paths in a folder, at any depth, that look like model files, in order. -/
def modelPathsBelow (tree : FileTree) (folder : Path) : List Path :=
  match tree.resolve folder with
  | .error _ => []
  | .ok place =>
    let paths := (tree.below place).map fun e => folder.append ⟨.relative, e.1⟩
    (paths.filter isModelPath).mergeSort fun p q => componentsLE p.components q.components

/-- The paths of some arguments, with each folder replaced by the model files below it. -/
def expandPaths (tree : FileTree) : List String → Except Fault (List Path)
  | [] => .ok []
  | file :: rest => do
    let p := Path.ofString file
    let paths := if ← tree.holdsFolder p then modelPathsBelow tree p else [p]
    return paths ++ (← expandPaths tree rest)

/-! ## 2. Inputs -/

/-- An input. -/
inductive Input where
  | file (path : Path)
  | url (address : String)
  | stdin
  deriving DecidableEq, Repr, Inhabited

/-- How messages call an input. -/
def Input.label : Input → String
  | file path => path.text
  | url address => address
  | stdin => "<stdin>"

/-- Is a text given, and not empty? -/
def given? : Option String → Option String
  | some "" => none
  | s => s

/-- Is any input named? -/
def Arguments.namesInput (a : Arguments) : Bool :=
  !a.files.isEmpty || (given? a.url).isSome || a.stdin

/-- All inputs that a command line names. -/
def inputsOf (tree : FileTree) (a : Arguments) : Except Fault (List Input) := do
  let paths ← expandPaths tree a.files
  return paths.map .file ++ ((given? a.url).map Input.url).toList
    ++ (if a.stdin then [.stdin] else [])

/-- The document of an input, and the requests that were made for it. -/
def Input.read (w : World) : Input → List Request × Except Failure InputDocument
  | file path =>
    ([], (readModelFile w.tree path defaultEncoding).map fun d => ⟨d.source, d.text⟩)
  | url address =>
    let (requests, d) := readModelUrl w.web address defaultTimeout
    (requests, d.map fun d => ⟨d.source, d.text⟩)
  | stdin => ([], .ok ⟨"<stdin>", w.stdin⟩)

end DomainGen.Command
