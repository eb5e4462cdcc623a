import DomainGen.Text.Digit
import DomainGen.Text.Lines
import DomainGen.Text.Quoted

/-!
# Options of the command line

What can be asked for on the command line, and the words it is asked with.

* `Opt` : the options, their names, and whether they take a value;
* `UsageError` : what can be wrong with a command line, and its wording;
* `Word.read` : what a single word is. A long name may be cut short as long as only one option has
  it that way; a short name may have its value, or other short names, right behind it.
-/

namespace DomainGen.Command

open Text

/-! ## 1. Options -/

/-- An option. -/
inductive Opt where
  | help
  | url
  | stdin
  | output
  | config
  | templateSet
  | templateDir
  | extension
  | atomic
  | noEmptyRootIndex
  | dryRun
  | listTemplateSets
  | verbose
  | logLevel
  deriving DecidableEq, Repr, Inhabited

namespace Opt

/-- All options. -/
def all : List Opt :=
  [help, url, stdin, output, config, templateSet, templateDir, extension, atomic, noEmptyRootIndex,
    dryRun, listTemplateSets, verbose, logLevel]

/-- The names of an option. -/
def names : Opt → List String
  | help => ["-h", "--help"]
  | url => ["--url"]
  | stdin => ["--stdin"]
  | output => ["--output", "-o"]
  | config => ["--config"]
  | templateSet => ["--template-set"]
  | templateDir => ["--template-dir"]
  | extension => ["--extension"]
  | atomic => ["--atomic"]
  | noEmptyRootIndex => ["--no-empty-root-index"]
  | dryRun => ["--dry-run"]
  | listTemplateSets => ["--list-template-sets"]
  | verbose => ["--verbose", "-v"]
  | logLevel => ["--log-level"]

/-- Does the option take a value? -/
def takesValue : Opt → Bool
  | url | output | config | templateSet | templateDir | extension | logLevel => true
  | _ => false

/-- All names, in order, with their options. -/
def allNames : List (String × Opt) :=
  all.flatMap fun o => o.names.map fun name => (name, o)

/-- The option with a name. -/
def ofName? (name : String) : Option Opt := allNames.lookup name

/-- The options with a name that begins in some way. -/
def beginningWith (start : List Char) : List (String × Opt) :=
  allNames.filter fun e => start.isPrefixOf e.1.toList

/-- How messages call an option. -/
def label (o : Opt) : String := "/".intercalate o.names

/-- Every option has its names for itself. -/
theorem ofName?_names : ∀ o ∈ all, ∀ name ∈ o.names, ofName? name = some o := by decide

end Opt

/-! ## 2. Errors -/

/-- The levels that can be asked for. -/
def levelChoices : List String := ["DEBUG", "INFO", "WARNING", "ERROR"]

/-- What is wrong with a command line. -/
inductive UsageError where
  /-- Several options have a name that begins like this. -/
  | ambiguous (word : String) (names : List String)
  /-- An option lacks its value. -/
  | valueExpected (o : Opt)
  /-- An option that takes no value has one. -/
  | valueIgnored (o : Opt) (value : String)
  /-- There is no such level. -/
  | unknownLevel (level : String)
  /-- Words that mean nothing. -/
  | unrecognized (words : List String)
  deriving DecidableEq, Repr, Inhabited

/-- The wording of an error. -/
def UsageError.message : UsageError → String
  | ambiguous word names =>
    "ambiguous option: " ++ word ++ " could match " ++ ", ".intercalate names
  | valueExpected o => "argument " ++ o.label ++ ": expected one argument"
  | valueIgnored o value =>
    "argument " ++ o.label ++ ": ignored explicit argument " ++ quoted value
  | unknownLevel level =>
    "argument " ++ Opt.logLevel.label ++ ": invalid choice: " ++ quoted level ++ " (choose from "
      ++ ", ".intercalate (levelChoices.map quoted) ++ ")"
  | unrecognized words => "unrecognized arguments: " ++ " ".intercalate words

/-! ## 3. Words -/

/-- What a word of the command line is. -/
inductive Word where
  /-- An argument, or the value of an option. -/
  | argument (text : String)
  /-- Two dashes: no option follows. -/
  | separator
  /-- An option, by its long or its short name, and what stands in the same word behind it. -/
  | option (o : Opt) (short : Bool) (attached : Option (List Char))
  /-- It looks like an option but is none. -/
  | unknown (text : String)
  deriving DecidableEq, Repr, Inhabited

/-- Is it a number with a minus sign? A line end may follow. -/
def isNegativeNumber (s : List Char) : Bool :=
  let isDigit (c : Char) : Bool := (digitValue? c).isSome
  let digits (t : List Char) : Bool := !t.isEmpty && t.all isDigit
  match s with
  | '-' :: rest =>
    let number := if rest.getLast? == some '\n' then rest.dropLast else rest
    let whole := number.takeWhile isDigit
    match number.drop whole.length with
    | [] => digits whole
    | '.' :: fraction => digits fraction
    | _ => false
  | _ => false

/-- What follows the first equals sign, and what is before it. -/
def splitEquals (s : List Char) : List Char × Option (List Char) :=
  let before := s.takeWhile (· != '=')
  match s.drop before.length with
  | '=' :: after => (before, some after)
  | _ => (before, none)

/-- A word that begins with a dash and is none of the names: a name with a value, or part of a
    name. -/
def Word.readDashed (word : String) : Except UsageError Word :=
  let s := word.toList
  let (before, after) := splitEquals s
  let asArgument : Word :=
    if isNegativeNumber s || s.contains ' ' then .argument word else .unknown word
  match after.bind fun _ => Opt.ofName? (String.ofList before) with
  | some o => .ok (.option o (before.length == 2) after)
  | none => match s with
    | '-' :: '-' :: _ => match Opt.beginningWith before with
      | [] => .ok asArgument
      | [(_, o)] => .ok (.option o false after)
      | several => .error (.ambiguous word (several.map (·.1)))
    | dash :: c :: value => match Opt.ofName? (String.ofList [dash, c]) with
      | some o => .ok (.option o true (some value))
      | none => .ok asArgument
    | _ => .ok asArgument

/-- What a word is. -/
def Word.read (word : String) : Except UsageError Word :=
  match word.toList with
  | '-' :: rest =>
    match Opt.ofName? word with
    | some o => .ok (.option o (rest.length == 1) none)
    | none => if rest.isEmpty then .ok (.argument word) else readDashed word
  | _ => .ok (.argument word)

/-- What some words are. After two dashes all are arguments. -/
def Word.readAll : List String → Except UsageError (List Word)
  | [] => .ok []
  | "--" :: rest => .ok (.separator :: rest.map .argument)
  | word :: rest => do
    let w ← Word.read word
    return w :: (← readAll rest)

end DomainGen.Command
