import DomainGen.Fault
import DomainGen.Path
import DomainGen.Text.Encoding
import DomainGen.Text.Lines

/-!
# File trees

The part of a file system the program can see, as a value: every file and folder by its components
from the root, and the folder relative paths start from.

* `FileTree.resolve` : the place a path leads to. Every folder on the way must exist, and a double
  dot leaves the folder reached so far;
* `exists?`, `isFolder`, `isFile`, `read`, `readText` : looking;
* `makeFolder`, `write` : changing;
* `below` : everything inside a folder, at any depth.

**Nothing is ever removed**: writing replaces the content of a file or adds a file, and making a
folder adds the folders on the way to it.
-/

namespace DomainGen

open Text

/-- What stands at a place. -/
inductive Node where
  | file (content : List UInt8)
  | folder
  deriving Repr, Inhabited, DecidableEq

/-- A place: the components from the root. -/
abbrev Place := List String

/-- Files and folders. The root is always a folder. -/
structure FileTree where
  /-- What stands where; a place occurs once. -/
  nodes : List (Place × Node)
  /-- The folder relative paths start from. -/
  workingFolder : Place
  deriving Repr, Inhabited

namespace FileTree

/-! ## 1. Places -/

/-- What stands at a place. -/
def node? (t : FileTree) (place : Place) : Option Node :=
  if place.isEmpty then some .folder else (t.nodes.find? (·.1 == place)).map (·.2)

/-- The longest component a folder can hold, in bytes. -/
def maxNameBytes : Nat := 255

/-- The longest path, in bytes. -/
def maxPathBytes : Nat := 4095

/-- One component further from a place that must be a folder. -/
def step (t : FileTree) (place : Place) (component : String) : Except SystemError Place :=
  match t.node? place with
  | none => .error .notFound
  | some (.file _) => .error .notFolder
  | some .folder =>
    if maxNameBytes < component.utf8ByteSize then .error .nameTooLong
    else if component == ".." then .ok place.dropLast
    else .ok (place ++ [component])

/-- The place some components lead to. -/
def walk (t : FileTree) : Place → List String → Except SystemError Place
  | place, [] => .ok place
  | place, c :: rest => match t.step place c with
    | .ok next => walk t next rest
    | .error e => .error e

/-- The place a path leads to. A path cannot hold the null character. -/
def resolve (t : FileTree) (p : Path) : Except Fault Place :=
  if p.components.any fun c => c.toList.contains '\x00' then .error .badValue
  else if maxPathBytes < p.text.utf8ByteSize then .error (.system .nameTooLong)
  else (t.walk (if p.isAbsolute then [] else t.workingFolder) p.components).mapError .system

/-! ## 2. Looking -/

/-- What a path leads to, if anything. -/
def at? (t : FileTree) (p : Path) : Option Node :=
  match t.resolve p with
  | .ok place => t.node? place
  | .error _ => none

/-- Does the path lead to something? A name that is too long is an error, any other way that
    breaks off means that there is nothing. -/
def exists? (t : FileTree) (p : Path) : Except Fault Bool :=
  match t.resolve p with
  | .ok place => .ok (t.node? place).isSome
  | .error (.system .nameTooLong) => .error (.system .nameTooLong)
  | .error _ => .ok false

/-- Does the path lead to a folder? -/
def isFolder (t : FileTree) (p : Path) : Bool :=
  match t.at? p with
  | some .folder => true
  | _ => false

/-- As `isFolder`; a name that is too long is an error, as it is for `exists?`. -/
def holdsFolder (t : FileTree) (p : Path) : Except Fault Bool :=
  (t.exists? p).map fun _ => t.isFolder p

/-- Does the path lead to a file? -/
def isFile (t : FileTree) (p : Path) : Bool :=
  match t.at? p with
  | some (.file _) => true
  | _ => false

/-- The content of the file at a path. -/
def read (t : FileTree) (p : Path) : Except Fault (List UInt8) := do
  let place ← t.resolve p
  match t.node? place with
  | none => .error (.system .notFound)
  | some .folder => .error (.system .isFolder)
  | some (.file content) => .ok content

/-- The text of the file at a path, with every line end a line feed. What cannot be the name of an
    encoding is noticed before the file is looked for. -/
def readText (t : FileTree) (p : Path) (encoding : String) : Except Fault String := do
  let e := Encoding.ofName encoding
  if let .error .badValue := e then throw .badValue
  let content ← t.read p
  return String.ofList (unifyLineEnds (← (← e).decode content))

/-- Everything inside the folder at a place, at any depth, as components from that place. -/
def below (t : FileTree) (place : Place) : List (List String × Node) :=
  t.nodes.filterMap fun (q, n) =>
    if place.isPrefixOf q && q.length != place.length then some (q.drop place.length, n) else none

/-! ## 3. Changing -/

/-- The tree with a node at a place, in place of what stood there. -/
def put (t : FileTree) (place : Place) (n : Node) : FileTree :=
  if t.nodes.any (·.1 == place) then
    { t with nodes := t.nodes.map fun e => if e.1 == place then (place, n) else e }
  else { t with nodes := t.nodes ++ [(place, n)] }

/-- The tree with one folder more. Something that stands there already is in the way. -/
def makeOne (t : FileTree) (p : Path) : Except Fault FileTree := do
  let place ← t.resolve p
  match t.node? place with
  | some _ => .error (.system .alreadyExists)
  | none => .ok (t.put place .folder)

/-- The tree with a folder and the folders on the way to it. A folder that is there already is left
    as it is. `depth` bounds the folders that are missing. Folders made before a failure stay. -/
def makeFolderWithin (t : FileTree) (p : Path) : (depth : Nat) → FileTree × Option Fault
  | 0 => (t, some (.system .notFound))
  | depth + 1 =>
    match t.makeOne p with
    | .ok t' => (t', none)
    | .error (.system .notFound) =>
      if p.components.isEmpty then (t, some (.system .notFound))
      else
        let (t', failed) := makeFolderWithin t p.parent depth
        match failed with
        | some e => (t', some e)
        | none =>
          match t'.makeOne p with
          | .ok t'' => (t'', none)
          | .error e => if t'.isFolder p then (t', none) else (t', some e)
    | .error .badValue => (t, some .badValue)
    | .error e => if t.isFolder p then (t, none) else (t, some e)

/-- The tree with a folder and the folders on the way to it. -/
def makeFolder (t : FileTree) (p : Path) : FileTree × Option Fault :=
  t.makeFolderWithin p (p.components.length + 1)

/-- The tree with a file of the given content. -/
def write (t : FileTree) (p : Path) (content : List UInt8) : Except Fault FileTree := do
  let place ← t.resolve p
  match t.node? place with
  | some .folder => .error (.system .isFolder)
  | _ => .ok (t.put place (.file content))

/-- The tree with a file of the given text. A text the encoding cannot express leaves an empty
    file behind, and so does an unknown encoding. -/
def writeText (t : FileTree) (p : Path) (encoding text : String) : FileTree × Option Fault :=
  let bytes : Except Fault (List UInt8) := match Encoding.ofName encoding with
    | .ok e => match e.encode text with
      | some bytes => .ok bytes
      | none => .error Fault.unencodable
    | .error f => .error f
  match bytes, t.write p (bytes.toOption.getD []) with
  | .error .badValue, _ => (t, some .badValue)
  | _, .error f => (t, some f)
  | .ok _, .ok t => (t, none)
  | .error f, .ok t => (t, some f)

end FileTree

end DomainGen
