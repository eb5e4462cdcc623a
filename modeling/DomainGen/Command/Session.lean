import DomainGen.Command.Input
import DomainGen.Console.Table

/-!
# Sessions

A session runs documents through a pipeline and tells about it on the console: each input as it
comes, then, if asked for, a table of the generated files, and a summary.

* `Session.report` : an input that cannot be read;
* `Session.take` : a document;
* `Session.serve` : inputs, in order. An input that cannot be read is told about and left behind;
* `Session.finish` : what is told at the end; `Session.exitCode` : the exit code.
-/

namespace DomainGen.Command

open Console

/-! ## 1. Sessions -/

/-- A session. -/
structure Session (ρ σ : Type) where
  /-- The pipeline at work. -/
  stream : Stream ρ σ
  /-- The outcomes so far. -/
  outcomes : List Outcome
  /-- The inputs that could not be read, each with the reason in words. -/
  inputErrors : List (String × String)
  /-- The requests made so far. -/
  requests : List Request
  /-- The lines on the console so far. -/
  screen : List String

namespace Session

variable {ρ σ : Type}

/-- A session with a pipeline and a sink. -/
def start (p : Pipeline ρ) (s : σ) : Session ρ σ := ⟨.start p s, [], [], [], []⟩

/-- Shows a text. -/
def print (s : Session ρ σ) (text : String) : Session ρ σ :=
  { s with screen := s.screen ++ linesOf text }

/-- Tells about an input that cannot be read. -/
def report (s : Session ρ σ) (source reason : String) : Session ρ σ :=
  { s.print ("❌ Cannot read " ++ source ++ ": " ++ reason) with
    inputErrors := s.inputErrors ++ [(source, reason)] }

end Session

/-! ## 2. Documents -/

/-- A number in decimal digits. -/
def digits (n : Nat) : String := String.ofList (Nat.toDigits 10 n)

/-- How messages call the source of an outcome. -/
def Outcome.label (o : Outcome) : String := o.source.getD ""

/-- What is told about an outcome. -/
def outcomeText? (o : Outcome) : Option String :=
  match o.status with
  | .generated => some ("✅ " ++ Outcome.label o ++ ": " ++ digits o.files.length ++ " file(s)")
  | .failed =>
    some ("❌ " ++ Outcome.label o ++ ": " ++ ((o.failure.map Failure.message).getD ""))
  | .skipped => none

namespace Session

variable {ρ σ : Type}

/-- Processes a document. The fault is that of an atomic pipeline whose sink refuses a file. -/
def take (sink : Sink σ) (s : Session ρ σ) (d : InputDocument) :
    Session ρ σ × Option Fault :=
  let s := s.print ("📄 Loaded: " ++ d.source)
  match s.stream.process sink (some d) with
  | (stream, .error f) => ({ s with stream }, some f)
  | (stream, .ok o) =>
    let s := { s with stream, outcomes := s.outcomes ++ [o] }
    (((outcomeText? o).map s.print).getD s, none)

/-- Processes documents, up to a fault. -/
def takeAll (sink : Sink σ) : Session ρ σ → List InputDocument →
    Session ρ σ × Option Fault
  | s, [] => (s, none)
  | s, d :: rest => match s.take sink d with
    | (s, some f) => (s, some f)
    | (s, none) => takeAll sink s rest

/-- Reads inputs and processes their documents, up to a fault. `treeOf` is the file tree as the
    sink has left it. -/
def serve (sink : Sink σ) (treeOf : σ → FileTree) (w : World) :
    Session ρ σ → List Input → Session ρ σ × Option Failure
  | s, [] => (s, none)
  | s, input :: rest =>
    let (requests, document) := input.read { w with tree := treeOf s.stream.sink }
    let s := { s with requests := s.requests ++ requests }
    match document with
    | .error (.loading e) => serve sink treeOf w (s.report input.label e.message) rest
    | .error f => (s, some f)
    | .ok d => match s.take sink d with
      | (s, some f) => (s, some (.fault f))
      | (s, none) => serve sink treeOf w s rest

/-- A session that has made the requests for an input. -/
def asked (treeOf : σ → FileTree) (w : World) (s : Session ρ σ) (input : Input) : Session ρ σ :=
  { s with requests := s.requests ++ (input.read { w with tree := treeOf s.stream.sink }).1 }

/-- What a session does with the first of its inputs. -/
theorem serve_cons {sink : Sink σ} {treeOf : σ → FileTree} {w : World} {s : Session ρ σ}
    {input : Input} {inputs : List Input} : s.serve sink treeOf w (input :: inputs) =
      match (input.read { w with tree := treeOf s.stream.sink }).2 with
      | .error (.loading e) =>
        ((s.asked treeOf w input).report input.label e.message).serve sink treeOf w inputs
      | .error f => (s.asked treeOf w input, some f)
      | .ok d => match (s.asked treeOf w input).take sink d with
        | (next, some f) => (next, some (.fault f))
        | (next, none) => next.serve sink treeOf w inputs := rfl

/-! ## 3. The end -/

/-- The outcomes as a report. -/
def toReport (s : Session ρ σ) : Report := ⟨s.outcomes⟩

/-- Does the session end well? -/
def ok (s : Session ρ σ) : Bool := s.toReport.ok && s.inputErrors.isEmpty

end Session

/-- The row of a file in the table of generated files. -/
def fileRow (o : Outcome) (f : GeneratedFile) : List String :=
  [Outcome.label o, f.path, f.className.getD "", digits f.content.length ++ " B"]

/-- The table of generated files. -/
def filesTable (r : Report) : Table where
  title := "📂 Generated Files"
  box := .simple
  columns := [⟨"Model", .left⟩, ⟨"Path", .left⟩, ⟨"Class", .left⟩, ⟨"Size", .right⟩]
  rows := r.succeeded.flatMap fun o => o.files.map (fileRow o)

/-- Where the files of a session went. -/
inductive Destination where
  /-- Nowhere. -/
  | dryRun
  /-- To a folder. -/
  | folder (path : String)
  /-- To somewhere without a name. -/
  | unnamed
  deriving DecidableEq, Repr, Inhabited

/-- How the summary ends for a destination. -/
def Destination.text : Destination → String
  | dryRun => " (dry run, nothing written)"
  | folder path => " to " ++ path
  | unnamed => ""

/-- The summary. -/
def summary (r : Report) (inputErrors : Nat) (destination : Destination) : String :=
  "\n📊 " ++ digits r.succeeded.length ++ " model(s) generated, "
    ++ digits (r.failed.length + inputErrors) ++ " failed, " ++ digits r.filesWritten ++ " file(s)"
    ++ destination.text

namespace Session

variable {ρ σ : Type}

/-- Was there nothing to process? -/
def isEmpty (s : Session ρ σ) : Bool := s.outcomes.isEmpty && s.inputErrors.isEmpty

/-- The exit code: 0 if there was something to process and all of it went well. -/
def exitCode (s : Session ρ σ) : Nat := if s.isEmpty || !s.ok then 1 else 0

/-- The session after what is told at its end. -/
def finish (s : Session ρ σ) (listFiles : Bool) (destination : Destination) : Session ρ σ :=
  let r := s.toReport
  if s.isEmpty then s.print "❌ No models found"
  else
    let s := if listFiles then { s with screen := s.screen ++ [""] ++ (filesTable r).lines } else s
    s.print (summary r s.inputErrors.length destination)

/-- The exit code is 0 exactly if there was something to process and nothing failed. -/
theorem exitCode_eq_zero (s : Session ρ σ) :
    s.exitCode = 0 ↔ s.isEmpty = false ∧ s.ok = true := by
  unfold exitCode
  cases s.isEmpty <;> cases s.ok <;> simp

end Session

end DomainGen.Command
