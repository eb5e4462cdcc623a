import DomainGen.FileTree

/-!
# Sinks

A sink takes generated files, one at a time, and may refuse one. It is a function on whatever state
it keeps; a refusal can leave the state changed, as when a folder was made but the file could not be
written.

* `memorySink`, `failingSink`, `directorySink` : where files end;
* `recordingSink` : passes files on and remembers those that were taken;
* `bufferedSink`, `flush`, `discard` : holds files back until they are passed on or dropped.
-/

namespace DomainGen

/-- A generated file. -/
structure GeneratedFile where
  /-- The path, relative to where the output goes. -/
  path : String
  /-- The text. -/
  content : String
  /-- The name of the class in it; an index file has none. -/
  className : Option String
  deriving DecidableEq, Repr, Inhabited

/-- A sink: the state after a file was handed over, and the fault if it was refused. -/
abbrev Sink (σ : Type) := σ → GeneratedFile → σ × Option Fault

/-! ## 1. Where files end -/

/-- Keeps every file. -/
def memorySink : Sink (List GeneratedFile) :=
  fun kept f => (kept ++ [f], none)

/-- Keeps so many files and refuses all others. -/
def failingSink (capacity : Nat) : Sink (List GeneratedFile) :=
  fun kept f =>
    if kept.length < capacity then (kept ++ [f], none) else (kept, some (.system .refused))

/-- A file tree files are written to. -/
structure Directory where
  /-- The files and folders. -/
  tree : FileTree
  /-- The paths written so far. -/
  written : List String
  deriving Repr, Inhabited

/-- Writes every file below a root, in an encoding, with the folders it needs. -/
def directorySink (root : Path) (encoding : String) : Sink Directory :=
  fun d f =>
    let target := root.append (Path.ofString f.path)
    match d.tree.makeFolder target.parent with
    | (tree, some e) => (⟨tree, d.written⟩, some e)
    | (tree, none) => match tree.writeText target encoding f.content with
      | (tree, some e) => (⟨tree, d.written⟩, some e)
      | (tree, none) => (⟨tree, d.written ++ [target.text]⟩, none)

/-! ## 2. Recording -/

/-- The state of a recording sink over another one. -/
structure Recorded (σ : Type) where
  /-- The state of the other sink. -/
  target : σ
  /-- The files it took. -/
  files : List GeneratedFile
  deriving Repr, Inhabited

/-- Passes files on and remembers those that were taken. -/
def recordingSink {σ : Type} (target : Sink σ) : Sink (Recorded σ) :=
  fun s f => match target s.target f with
    | (t, none) => (⟨t, s.files ++ [f]⟩, none)
    | (t, some e) => (⟨t, s.files⟩, some e)

/-! ## 3. Buffering -/

/-- The state of a buffer in front of a sink. -/
structure Buffered (σ : Type) where
  /-- The state of the sink. -/
  target : σ
  /-- The files held back. -/
  pending : List GeneratedFile
  deriving Repr, Inhabited

/-- Holds files back. -/
def bufferedSink {σ : Type} : Sink (Buffered σ) :=
  fun s f => (⟨s.target, s.pending ++ [f]⟩, none)

/-- Passes files on until one is refused. A file that is refused is not among those that are
    left. -/
def forward {σ : Type} (target : Sink σ) : σ → List GeneratedFile →
    σ × List GeneratedFile × Except Fault Nat
  | s, [] => (s, [], .ok 0)
  | s, f :: rest => match target s f with
    | (s, some e) => (s, rest, .error e)
    | (s, none) =>
      let (s, left, sent) := forward target s rest
      (s, left, sent.map (· + 1))

/-- Passes on all files that are held back; how many there were. -/
def flush {σ : Type} (target : Sink σ) (s : Buffered σ) : Buffered σ × Except Fault Nat :=
  let (t, left, sent) := forward target s.target s.pending
  (⟨t, left⟩, sent)

/-- Drops all files that are held back; how many there were. -/
def discard {σ : Type} (s : Buffered σ) : Buffered σ × Nat :=
  (⟨s.target, []⟩, s.pending.length)

/-! ## 4. Small facts -/

/-- A memory holds what it was given behind what it held. -/
@[simp] theorem memorySink_apply (kept : List GeneratedFile) (f : GeneratedFile) :
    memorySink kept f = (kept ++ [f], none) := rfl

end DomainGen
