import DomainGen.Command.Help
import DomainGen.Command.Run
import DomainGen.Template.Builtin

/-!
# The program

The command line on a real disk: what the arguments name is read into a file tree, the run happens
on that, and what it has changed is written back. There is no network, so nothing can be fetched
from a URL.
-/

namespace DomainGen.Command

/-- The path of a place on disk. -/
def diskPath (place : Place) : String := "/" ++ "/".intercalate place

/-- What stands at a place on disk, with everything below it down to a depth. -/
def readDisk : (depth : Nat) → Place → IO (List (Place × Node))
  | 0, _ => return []
  | depth + 1, place => do
    let here : IO.FS.DirEntry := ⟨diskPath place, ""⟩
    if ← here.root.isDir then
      let mut nodes := [(place, Node.folder)]
      for child in ← here.root.readDir do
        nodes := nodes ++ (← readDisk depth (place ++ [child.fileName]))
      return nodes
    else
      match ← (IO.FS.readBinFile (diskPath place)).toBaseIO with
      | .ok bytes => return [(place, .file bytes.toList)]
      | .error _ => return []

/-- How deep folders are read. -/
def diskDepth : Nat := 64

/-- The places a path leads through, the last one last. -/
def placesOn (start : Place) (p : Path) : List Place :=
  let first := if p.isAbsolute then [] else start
  p.components.foldl (fun places c =>
    let here := places.getLast?.getD first
    places ++ [if c == ".." then here.dropLast else here ++ [c]]) [first]

/-- The places on the way to a place, the root left out. -/
def wayTo (place : Place) : List Place :=
  (List.range place.length).map fun n => place.take (n + 1)

/-- The tree with the folders on the way to some places, where the disk has them. -/
def addFolders (t : FileTree) (places : List Place) : IO FileTree := do
  let mut t := t
  for place in places.flatMap wayTo do
    let here : IO.FS.DirEntry := ⟨diskPath place, ""⟩
    if ← here.root.isDir then t := t.put place .folder
  return t

/-- The tree with what stands at a place and below it. -/
def addBelow (t : FileTree) (place : Place) : IO FileTree := do
  let mut t := t
  for (place, node) in ← readDisk diskDepth place do
    if !place.isEmpty then t := t.put place node
  return t

/-- The paths that some arguments name. -/
def Arguments.paths (a : Arguments) : List String :=
  a.files ++ [a.output] ++ a.config.toList ++ a.templateDir.toList

/-- What a run can see on an empty disk. -/
def emptyWorld : World := ⟨Template.Builtin.install ⟨[], []⟩, "", fun _ => .unreachable⟩

/-- What a run with some arguments can see. -/
def readWorld (a : Arguments) : IO World := do
  let folder := (Path.ofString (← IO.currentDir).toString).components
  let mut tree ← addFolders ⟨[], folder⟩ [folder]
  for path in a.paths do
    let places := placesOn folder (Path.ofString path)
    tree ← addBelow (← addFolders tree places) (places.getLast?.getD folder)
  let input ← if a.stdin then (← IO.getStdin).readBinToEnd else pure .empty
  let text := (Utf8.decode input.toList).getD []
  return { emptyWorld with
    tree := Template.Builtin.install tree
    stdin := String.ofList (Text.unifyLineEnds text) }

/-- Writes what differs between two trees to the disk. -/
def writeChanges (before after : FileTree) : IO Unit := do
  for (place, node) in after.nodes do
    if before.node? place != some node then
      match node with
      | .folder => IO.FS.createDirAll (diskPath place)
      | .file content => IO.FS.writeBinFile (diskPath place) ⟨content.toArray⟩

end DomainGen.Command

open DomainGen.Command in
/-- Runs the command line. -/
def main (line : List String) : IO UInt32 := do
  let w ← match Arguments.read line with
    | .ok a => readWorld a
    | .error _ => pure emptyWorld
  match run w line with
  | .help =>
    helpLines.forM IO.println
    return 0
  | .misuse e =>
    usageLines.forM IO.eprintln
    IO.eprintln e.line
    return 2
  | .failed f =>
    IO.eprintln f.message
    return 1
  | .ran r _ =>
    writeChanges w.tree r.tree
    r.screen.forM IO.println
    return r.exit.toUInt32
