import DomainGen.Text.Case
import DomainGen.Text.Lines
import DomainGen.Text.Quoted

/-!
# Names of generated classes and files

From the key of an aggregate or of one of its commands, events and faults this module derives the
**published name** (the name of the class) and the **file name**.

* `NamingPolicy` : extension, folder, suffix, and whether the aggregate's name is put in front;
* `ensureSuffix` : capitalise, then append the suffix unless the name ends with it already,
  whatever its case;
* `splitOnCapitals` : lower-case segments, a new one before every upper-case character;
* `Naming` : what is named -- an aggregate (never prefixed), or an entity of one kind (which must
  be told its aggregate), or anything (prefixed when an aggregate is given).
-/

namespace DomainGen

open Text

/-! ## 1. Kinds -/

/-- The three kinds of entity an aggregate owns. -/
inductive Kind where
  | command
  | event
  | fault
  deriving DecidableEq, Repr, Inhabited

namespace Kind

/-- The kinds in the order in which they are walked. -/
def all : List Kind := [.command, .event, .fault]

/-- The name of the kind, which is also the name of its naming and template roles. -/
def text : Kind → String
  | command => "command"
  | event => "event"
  | fault => "fault"

/-- The key of the kind's collection inside an aggregate. -/
def collection (k : Kind) : String :=
  k.text ++ "s"

/-- The kind with a given name. -/
def ofText? (s : String) : Option Kind :=
  all.find? (·.text == s)

/-- The name with a capital letter. -/
def title : Kind → String
  | command => "Command"
  | event => "Event"
  | fault => "Fault"

/-- Every kind is walked. -/
theorem mem_all (k : Kind) : k ∈ all := by
  cases k <;> simp [all]

/-- A kind is found by its name. -/
theorem ofText?_text (k : Kind) : ofText? k.text = some k := by
  cases k <;> decide

end Kind

/-! ## 2. Policies -/

/-- How the files of one kind are named and where they go. -/
structure NamingPolicy where
  /-- Appended to every file name, normally with its dot. -/
  extension : String
  /-- Output folder. -/
  folder : String
  /-- Ending of every published name. -/
  suffix : String
  /-- Is the aggregate's name put in front? -/
  prefixAggregateName : Bool := false
  deriving DecidableEq, Repr, Inhabited

/-- The policy in words, as messages show it. -/
def NamingPolicy.describe (p : NamingPolicy) : String :=
  "NamingPolicy(extension=" ++ quoted p.extension ++ ", folder=" ++ quoted p.folder
    ++ ", suffix=" ++ quoted p.suffix ++ ", prefix_aggregate_name="
    ++ (if p.prefixAggregateName then "True" else "False") ++ ")"

/-! ## 3. Formatting -/

/-- The segments of a text: a new one before every upper-case character but the first. -/
def segments : List Char → List (List Char)
  | [] => [[]]
  | [c] => [[c]]
  | c :: d :: rest =>
    match segments (d :: rest) with
    | [] => [[c]]
    | s :: ss => if isUpper d then [c] :: s :: ss else (c :: s) :: ss

/-- The segments of a text in lower case, joined by a divider. -/
def splitOnCapitals (s divider : String) : String :=
  String.ofList (joinWith divider.toList ((segments s.toList).map lower))

/-- The text with its first character in upper case. -/
def capitalizeFirst (s : String) : String :=
  String.ofList (capitalize s.toList)

/-- Does the text end with the suffix when case is ignored? -/
def endsIgnoringCase (s suffix : List Char) : Bool :=
  (lower suffix).isSuffixOf (lower s)

/-- The capitalised text, with the suffix appended unless it ends with it already. -/
def ensureSuffix (s suffix : String) : String :=
  let formatted := capitalize s.toList
  String.ofList
    (if endsIgnoringCase formatted suffix.toList then formatted else formatted ++ suffix.toList)

/-- The class name of an item. With a policy that asks for it, the aggregate's name takes the
    suffixed item name as its own suffix. -/
def NamingPolicy.publishedName (p : NamingPolicy) (name : String) (owner : Option String) :
    String :=
  let suffixed := ensureSuffix name p.suffix
  match owner with
  | some aggregate => if p.prefixAggregateName then ensureSuffix aggregate suffixed else suffixed
  | none => suffixed

/-- The text that stands before the item's own name in its file name. -/
def NamingPolicy.filePrefix (p : NamingPolicy) : Option String → String
  | some aggregate => if p.prefixAggregateName then capitalizeFirst aggregate else ""
  | none => ""

/-- The file name of an item: hyphenated, in lower case, with the extension. -/
def NamingPolicy.fileName (p : NamingPolicy) (name : String) (owner : Option String) : String :=
  splitOnCapitals (ensureSuffix (p.filePrefix owner ++ capitalizeFirst name) p.suffix) "-"
    ++ p.extension

/-! ## 4. What is named -/

/-- The item a policy is applied to. -/
inductive Subject where
  /-- Whatever comes, with or without an owner. -/
  | anything
  /-- An aggregate; its owner is ignored. -/
  | aggregate
  /-- An entity of a kind; it needs an owner. -/
  | entity (kind : Kind)
  deriving DecidableEq, Repr, Inhabited

/-- The subject a kind stands for; none is the aggregate. -/
def Subject.ofKind : Option Kind → Subject
  | none => .aggregate
  | some k => .entity k

/-- Why a name cannot be derived. -/
inductive NamingError where
  /-- An entity of the kind was to be named without its aggregate. -/
  | ownerRequired (kind : Kind)
  deriving DecidableEq, Repr

/-- The wording of a naming error. -/
def NamingError.message : NamingError → String
  | .ownerRequired k => k.text ++ " names require an aggregate name"

/-- A subject and the policy it is named by. -/
structure Naming where
  /-- What is named. -/
  subject : Subject
  /-- The rules. -/
  policy : NamingPolicy
  deriving DecidableEq, Repr, Inhabited

namespace Naming

/-- The owner that counts for a subject. -/
def owner? (n : Naming) (owner : Option String) : Except NamingError (Option String) :=
  match n.subject, owner with
  | .anything, o => .ok o
  | .aggregate, _ => .ok none
  | .entity k, none => .error (.ownerRequired k)
  | .entity _, some a => .ok (some a)

/-- The class name of an item. -/
def publishedName (n : Naming) (name : String) (owner : Option String) :
    Except NamingError String :=
  (n.owner? owner).map (n.policy.publishedName name)

/-- The file name of an item. -/
def fileName (n : Naming) (name : String) (owner : Option String) : Except NamingError String :=
  (n.owner? owner).map (n.policy.fileName name)

/-- What names items of a subject is called. -/
def label (n : Naming) : String :=
  match n.subject with
  | .anything => "NamingStrategy"
  | .aggregate => "AggregateNaming"
  | .entity k => k.title ++ "Naming"

/-- The naming in words, as messages show it. -/
def describe (n : Naming) : String :=
  n.label ++ "(" ++ n.policy.describe ++ ")"

end Naming

end DomainGen
