import DomainGen.Text.Lines

/-!
# File paths

A path is a root and a list of components. Reading a path drops empty components and single dots
and keeps everything else, so two spellings of one path read as the same value and `Path.text` is
a normal form.

* `Path.ofString`, `Path.join`, `Path.text` : reading, joining, writing;
* `joinPath` : the text of the joined parts, the form in which output paths are compared;
* `Path.name`, `Path.suffix` : the last component and its extension;
* `collapse` : components with every double dot resolved against the component before it;
* `relativePath`, `relativeFolder` : the way from one folder to another, as an import specifier
  spells it.

**Joining restarts at an absolute part**: everything before the last part that begins with a slash
is dropped. A path that begins with exactly two slashes keeps them.
-/

namespace DomainGen

open Text

/-! ## 1. Reading and writing -/

/-- How a path begins. -/
inductive PathRoot where
  /-- No leading slash. -/
  | relative
  /-- One leading slash, or three and more. -/
  | single
  /-- Exactly two leading slashes. -/
  | double
  deriving DecidableEq, Repr, Inhabited

namespace PathRoot

/-- The slashes a path with this root begins with. -/
def text : PathRoot → String
  | relative => ""
  | single => "/"
  | double => "//"

/-- The root a text of characters begins with. -/
def ofChars (s : List Char) : PathRoot :=
  match (s.takeWhile (· == '/')).length with
  | 0 => relative
  | 2 => double
  | _ => single

end PathRoot

/-- A path: its root and its components. -/
structure Path where
  /-- How the path begins. -/
  root : PathRoot
  /-- The components, none of them empty or a single dot. -/
  components : List String
  deriving DecidableEq, Repr, Inhabited

namespace Path

/-- Does a piece between two slashes count as a component? -/
def isComponent (piece : String) : Bool :=
  piece != "" && piece != "."

/-- The components of a text: its pieces between slashes, less the empty ones and single dots. -/
def componentsOf (s : String) : List String :=
  ((splitAt '/' s.toList).map String.ofList).filter isComponent

/-- The path a text denotes. -/
def ofString (s : String) : Path :=
  ⟨PathRoot.ofChars s.toList, componentsOf s⟩

/-- The relative path without components: the current folder. -/
def current : Path := ⟨.relative, []⟩

/-- The second path read from the first: an absolute second path replaces the first. -/
def append (p q : Path) : Path :=
  match q.root with
  | .relative => ⟨p.root, p.components ++ q.components⟩
  | _ => q

/-- All paths joined from left to right. -/
def join (ps : List Path) : Path :=
  ps.foldl append current

/-- The text of a path; the current folder is a single dot. -/
def text (p : Path) : String :=
  if p.root = .relative && p.components.isEmpty then "."
  else p.root.text ++ "/".intercalate p.components

/-- Does the path begin at the root of the file system? -/
def isAbsolute (p : Path) : Bool :=
  p.root != .relative

/-- The last component, empty for a path without components. -/
def name (p : Path) : String :=
  p.components.getLast?.getD ""

/-- The folder a path lies in; a path without components lies in itself. -/
def parent (p : Path) : Path :=
  ⟨p.root, p.components.dropLast⟩

end Path

/-- The parts joined and written in normal form. -/
def joinPath (parts : List String) : String :=
  (Path.join (parts.map Path.ofString)).text

/-! ## 2. Extensions -/

/-- The text from the last dot on, provided something precedes the dot and something follows it. -/
def suffixOf (name : String) : String :=
  let s := name.toList
  let ext := (s.reverse.takeWhile (· != '.')).reverse
  let stemLength := s.length - ext.length - 1
  if s.contains '.' && 0 < stemLength && !ext.isEmpty then String.ofList ('.' :: ext) else ""

/-- The extension of the last component of a path, with its dot; empty if it has none. -/
def Path.suffix (p : Path) : String :=
  suffixOf p.name

/-- A name without its last extension. A name whose only dot comes first keeps it. -/
def stripExtension (name : String) : String :=
  let s := name.toList
  let ext := (s.reverse.takeWhile (· != '.')).reverse
  let stem := s.take (s.length - ext.length - 1)
  if s.contains '.' && !stem.isEmpty then String.ofList stem else name

/-! ## 3. From one folder to another -/

/-- One more component after `done` (nearest first): a double dot takes the component before it
    away; at the root it is dropped. -/
def collapseStep (done : List String) (component : String) : List String :=
  if component == ".." then done.tail else component :: done

/-- Components below the root of the file system with every double dot resolved. -/
def collapse (components : List String) : List String :=
  (components.foldl collapseStep []).reverse

/-- The components, from the root of the file system, of a folder named from `base`. -/
def locate (base : List String) (folder : String) : List String :=
  let p := Path.ofString folder
  if p.isAbsolute then collapse p.components else collapse (base ++ p.components)

/-- The two lists without their common beginning. -/
def dropCommon : List String → List String → List String × List String
  | a :: as, b :: bs => if a == b then dropCommon as bs else (a :: as, b :: bs)
  | as, bs => (as, bs)

/-- The way from the folder `start` to the folder `target`, both named from `base`: one double dot
    for each folder to leave, then the folders to enter. -/
def relativePath (base : List String) (start target : String) : String :=
  let (leave, enter) := dropCommon (locate base start) (locate base target)
  match leave.map (fun _ => "..") ++ enter with
  | [] => "."
  | steps => "/".intercalate steps

/-- The way between two folders as an import specifier begins with it: a way that goes down gets a
    leading dot. An empty folder name is the base itself. -/
def relativeFolder (base : List String) (start target : String) : String :=
  let way := relativePath base start target
  if way == "." || way.startsWith ".." then way else "./" ++ way

end DomainGen
