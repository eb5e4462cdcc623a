import DomainGen.Data.Entries
import DomainGen.Sink.Basic

/-!
# Networks of sinks

Several sinks side by side over one file tree. A sink has a place it keeps, and a name that may be
given to another sink later on. A recording or buffered sink passes its files on to a sink that was
there before it, and two of them may share one.

* `Network.add`, `Network.addRecording`, `Network.addBuffered` : new sinks;
* `Network.sink` : the sink with a name, as a sink over the whole network.
-/

namespace DomainGen

/-- A sink of a network with its state. A target is the place of another sink. -/
inductive Outlet where
  | memory (files : List GeneratedFile)
  | failing (capacity : Nat) (files : List GeneratedFile)
  | directory (root : Path) (encoding : String) (written : List String)
  | recording (target : Nat) (files : List GeneratedFile)
  | buffered (target : Nat) (pending : List GeneratedFile)
  deriving Repr, Inhabited

/-- A network of sinks. -/
structure Network where
  /-- The sinks, the oldest first. -/
  outlets : List Outlet
  /-- The places of the sinks with a name, the newest first. -/
  names : List (String × Nat)
  /-- The file tree directories write to. -/
  tree : FileTree
  deriving Repr, Inhabited

namespace Network

/-! ## 1. Places and names -/

/-- A network without sinks over a file tree. -/
def empty (tree : FileTree) : Network := ⟨[], [], tree⟩

/-- The place of the sink that has a name now. -/
def place (n : Network) (name : String) : Except Fault Nat :=
  match n.names.lookup name with
  | some place => .ok place
  | none => .error .missingKey

/-- The sink that has a name now, with its place. -/
def named (n : Network) (name : String) : Except Fault (Nat × Outlet) := do
  let place ← n.place name
  match n.outlets[place]? with
  | some o => return (place, o)
  | none => throw .missingKey

/-- The network with a new sink. It takes the name from the sink that had it. -/
def add (n : Network) (name : String) (o : Outlet) : Network :=
  { n with outlets := n.outlets ++ [o], names := (name, n.outlets.length) :: n.names }

/-- The network with a new sink that records what it passes on. -/
def addRecording (n : Network) (name target : String) : Except Fault Network := do
  return n.add name (.recording (← n.place target) [])

/-- The network with a new sink that holds back what it passes on. -/
def addBuffered (n : Network) (name target : String) : Except Fault Network := do
  return n.add name (.buffered (← n.place target) [])

/-- The network with another state of the sink at a place. -/
def put (n : Network) (place : Nat) (o : Outlet) : Network :=
  { n with outlets := n.outlets.set place o }

/-! ## 2. Files -/

/-- The sink at a place, as a sink over the whole network. `depth` bounds how often a file is
    passed on. -/
def sinkWithin : (depth : Nat) → (place : Nat) → Sink Network
  | 0, _ => fun n _ => (n, some (.system .refused))
  | depth + 1, place => fun n f =>
    match n.outlets[place]? with
    | none => (n, some .missingKey)
    | some (.memory files) =>
      let (files, e) := memorySink files f
      (n.put place (.memory files), e)
    | some (.failing capacity files) =>
      let (files, e) := failingSink capacity files f
      (n.put place (.failing capacity files), e)
    | some (.directory root encoding written) =>
      let (d, e) := directorySink root encoding ⟨n.tree, written⟩ f
      ({ n with tree := d.tree }.put place (.directory root encoding d.written), e)
    | some (.recording target files) =>
      let (r, e) := recordingSink (sinkWithin depth target) ⟨n, files⟩ f
      (r.target.put place (.recording target r.files), e)
    | some (.buffered target pending) =>
      let (b, e) := bufferedSink (⟨n, pending⟩ : Buffered Network) f
      (b.target.put place (.buffered target b.pending), e)

/-- The sink at a place, as a sink over the whole network. A sink passes files on to an older one
    only, so that there are as many steps as sinks at most. -/
def sinkAt (place : Nat) : Sink Network :=
  fun n => sinkWithin (place + 1) place n

/-- The sink that has a name now, as a sink over the whole network. -/
def sink (name : String) : Sink Network :=
  fun n f => match n.place name with
    | .ok place => sinkAt place n f
    | .error e => (n, some e)

/-! ## 3. Views -/

/-- The files a sink has kept. -/
def files (n : Network) (name : String) : Except Fault (List GeneratedFile) := do
  match ← n.named name with
  | (_, .memory files) => return files
  | (_, .failing _ files) => return files
  | (_, .recording _ files) => return files
  | _ => throw .missingMember

/-- The files a memory has kept. -/
def memory (n : Network) (name : String) : Except Fault (List GeneratedFile) := do
  match ← n.named name with
  | (_, .memory files) => return files
  | _ => throw .missingMember

/-- How many files a memory has kept. Nothing else has a size. -/
def size (n : Network) (name : String) : Except Fault Nat := do
  match ← n.named name with
  | (_, .memory files) => return files.length
  | _ => throw .wrongKind

/-- The paths a directory has written. -/
def written (n : Network) (name : String) : Except Fault (List String) := do
  match ← n.named name with
  | (_, .directory _ _ written) => return written
  | _ => throw .missingMember

/-! ## 4. Memories and buffers -/

/-- The network with an emptied memory. -/
def clear (n : Network) (name : String) : Except Fault Network := do
  match ← n.named name with
  | (place, .memory _) => return n.put place (.memory [])
  | _ => throw .missingMember

/-- A buffer of a network. -/
structure Buffer where
  /-- The place of the buffer. -/
  place : Nat
  /-- The place of the sink it is in front of. -/
  target : Nat
  /-- The files it holds back. -/
  pending : List GeneratedFile
  deriving Repr, Inhabited

/-- The buffer that has a name now. -/
def buffer (n : Network) (name : String) : Except Fault Buffer := do
  match ← n.named name with
  | (place, .buffered target pending) => return ⟨place, target, pending⟩
  | _ => throw .missingMember

/-- Passes on what a buffer holds back; how many files there were. -/
def flushBuffer (n : Network) (name : String) : Network × Except Fault Nat :=
  match n.buffer name with
  | .error e => (n, .error e)
  | .ok b =>
    let (after, sent) := flush (sinkAt b.target) (⟨n, b.pending⟩ : Buffered Network)
    (after.target.put b.place (.buffered b.target after.pending), sent)

/-- Drops what a buffer holds back; how many files there were. -/
def discardBuffer (n : Network) (name : String) : Except Fault (Network × Nat) := do
  let b ← n.buffer name
  let (after, dropped) := discard (⟨n, b.pending⟩ : Buffered Network)
  return (after.target.put b.place (.buffered b.target after.pending), dropped)

end Network

/-- The contents of files by their paths; of several files with one path the last one counts, at
    the place of the first. -/
def contentsByPath (files : List GeneratedFile) : Entries :=
  Entries.ofList (files.map fun f => (.text f.path, .text f.content))

end DomainGen
