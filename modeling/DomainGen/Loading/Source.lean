import DomainGen.Data.Basic
import DomainGen.Failure
import DomainGen.FileTree
import DomainGen.Loading.Address

/-!
# Where models come from

A model document is read from a file or fetched from a URL; either way it is a text together with
the name of its source.

* `readModelFile` : from a file;
* `readModelUrl` : from a URL. `Web` says what the network answers.

Nothing is asked of the network for a URL that is not complete.
-/

namespace DomainGen

/-- The text of a model and where it comes from. -/
structure Loaded where
  /-- Where the text comes from. -/
  source : String
  /-- The text. -/
  text : String
  deriving DecidableEq, Repr, Inhabited

/-! ## 1. Files -/

/-- How text is encoded if nothing else is said. -/
def defaultEncoding : String := "utf-8"

/-- Why the text of a file cannot be had, if its fault is an error of the loading. -/
def readCause? (tree : FileTree) (path : Path) (encoding : String) : Fault → Option ReadCause
  | .system e => some (.system e)
  | .undecodable => some (.undecodable ((tree.read path).toOption.getD []) encoding)
  | _ => none

/-- Reads the text of a file. Only a file that is there but cannot be read as text in the encoding
    is an error of the loading. -/
def readModelFile (tree : FileTree) (path : Path) (encoding : String) : Except Failure Loaded :=
  match tree.exists? path with
  | .error f => .error (.fault f)
  | .ok false => .error (.loading (.fileNotFound path.text))
  | .ok true => match tree.readText path encoding with
    | .ok text => .ok ⟨path.text, text⟩
    | .error f => match readCause? tree path encoding f with
      | some cause => .error (.loading (.fileUnreadable path.text cause))
      | none => .error (.fault f)

/-! ## 2. The network -/

/-- What comes back for a request. -/
inductive Reply where
  /-- An answer with a status and a text. -/
  | answered (status : Nat) (body : String)
  /-- Nothing in time. -/
  | timedOut
  /-- No connection. -/
  | unreachable
  /-- A refusal without an answer. -/
  | refused
  /-- The request broke off for another reason. -/
  | broken (reason : String)
  deriving DecidableEq, Repr, Inhabited

/-- A request. -/
structure Request where
  /-- What is asked for. -/
  url : String
  /-- How long to wait, in seconds: a number. -/
  timeout : Data
  deriving Repr, Inhabited

/-- What the network answers. -/
abbrev Web := Request → Reply

/-- How long to wait if nothing else is said, in seconds. -/
def defaultTimeout : Data := .int 30

/-- Does a status tell of an error? -/
def isErrorStatus (status : Nat) : Bool :=
  400 ≤ status && status < 600

/-- The text a reply brings. A refusal without an answer has no status that could be told. -/
def Reply.text (r : Reply) (url : String) : Except Failure String :=
  match r with
  | answered status body =>
    if isErrorStatus status then .error (.loading (.http status url)) else .ok body
  | timedOut => .error (.loading (.timeout url))
  | unreachable => .error (.loading (.connection url))
  | refused => .error (.fault .missingMember)
  | broken reason => .error (.loading (.request url reason))

/-- Fetches the text from a URL; the requests made, and the text. -/
def readModelUrl (web : Web) (url : String) (timeout : Data) :
    List Request × Except Failure Loaded :=
  match Address.ofString url with
  | .error f => ([], .error (.fault f))
  | .ok address =>
    if address.isComplete then
      ([⟨url, timeout⟩], ((web ⟨url, timeout⟩).text url).map fun text => ⟨url, text⟩)
    else ([], .error (.loading (.invalidUrl url)))

end DomainGen
