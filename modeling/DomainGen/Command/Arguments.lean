import DomainGen.Command.Option

/-!
# Arguments of the command line

The words of a command line, taken together.

* `Arguments` : what is asked for; `Arguments.standard` : without any words;
* `Arguments.read` : from the words. Arguments in one run are the inputs; a later run is not
  understood, and neither are words that look like options.
-/

namespace DomainGen.Command

/-! ## 1. What is asked for -/

/-- What is asked for. -/
structure Arguments where
  /-- Files with models, and folders with such files. -/
  files : List String
  /-- A URL to fetch a model from. -/
  url : Option String
  /-- Is a model read from the standard input? -/
  stdin : Bool
  /-- The folder files are written to. -/
  output : String
  /-- A configuration file. -/
  config : Option String
  /-- The template set. -/
  templateSet : Option String
  /-- A folder with templates of its own. -/
  templateDir : Option String
  /-- The extension of all files. -/
  extension : Option String
  /-- Are a model's files written only if all of them were generated? -/
  atomic : Bool
  /-- Is no index of the kinds written when there are none? -/
  noEmptyRootIndex : Bool
  /-- Is nothing written at all? -/
  dryRun : Bool
  /-- Are only the template sets listed? -/
  listTemplateSets : Bool
  /-- Are warnings and generated files listed? -/
  verbose : Bool
  /-- The level of the log. -/
  logLevel : String
  /-- The options that two dashes behind them leave without a value. -/
  cleared : List Opt
  deriving DecidableEq, Repr, Inhabited

/-- Why reading ends before a run. -/
inductive Halt where
  /-- Help is asked for. -/
  | help
  /-- The command line is wrong. -/
  | misuse (e : UsageError)
  deriving DecidableEq, Repr, Inhabited

namespace Arguments

/-- What is asked for without any words. -/
def standard : Arguments where
  files := []
  url := none
  stdin := false
  output := "generated"
  config := none
  templateSet := none
  templateDir := none
  extension := none
  atomic := false
  noEmptyRootIndex := false
  dryRun := false
  listTemplateSets := false
  verbose := false
  logLevel := "WARNING"
  cleared := []

/-- The arguments with an option that takes no value. -/
def switch (a : Arguments) : Opt → Except Halt Arguments
  | .help => .error .help
  | .stdin => .ok { a with stdin := true }
  | .atomic => .ok { a with atomic := true }
  | .noEmptyRootIndex => .ok { a with noEmptyRootIndex := true }
  | .dryRun => .ok { a with dryRun := true }
  | .listTemplateSets => .ok { a with listTemplateSets := true }
  | .verbose => .ok { a with verbose := true }
  | o => .error (.misuse (.valueExpected o))

/-- The arguments without a value for an option. -/
def clear (a : Arguments) (o : Opt) : Arguments :=
  let a := { a with cleared := o :: a.cleared }
  match o with
  | .url => { a with url := none }
  | .config => { a with config := none }
  | .templateSet => { a with templateSet := none }
  | .templateDir => { a with templateDir := none }
  | .extension => { a with extension := none }
  | _ => a

/-- The arguments with a value for an option. -/
def give (a : Arguments) (value : String) : Opt → Except Halt Arguments
  | .url => .ok { a with url := some value }
  | .output => .ok { a with output := value }
  | .config => .ok { a with config := some value }
  | .templateSet => .ok { a with templateSet := some value }
  | .templateDir => .ok { a with templateDir := some value }
  | .extension => .ok { a with extension := some value }
  | .logLevel =>
    if levelChoices.contains value then .ok { a with logLevel := value }
    else .error (.misuse (.unknownLevel value))
  | o => .error (.misuse (.valueIgnored o value))

/-- The arguments with an option and its value. Two dashes are no value but leave the option without
    one. -/
def assign (a : Arguments) (value : String) (o : Opt) : Except Halt Arguments :=
  let a := { a with cleared := a.cleared.filter (· != o) }
  if value == "--" && o.takesValue then .ok (a.clear o) else a.give value o

end Arguments

/-! ## 2. One word with several options -/

/-- How a word with options ends. -/
inductive Ending where
  /-- With a value. -/
  | value (o : Opt) (value : String)
  /-- With an option whose value, if it takes one, is the next word. -/
  | pending (o : Opt)
  deriving DecidableEq, Repr, Inhabited

/-- The options of a word with something behind the first name: those without a value, and how the
    word ends. Only a short name has others behind it. -/
def unfoldWord (o : Opt) (short : Bool) (switches : List Opt) :
    (attached : List Char) → Except UsageError (List Opt × Ending)
  | [] =>
    if o.takesValue then .ok (switches, .value o "") else .error (.valueIgnored o "")
  | c :: rest =>
    let attached := String.ofList (c :: rest)
    if o.takesValue then .ok (switches, .value o attached)
    else match short, Opt.ofName? (String.ofList ['-', c]) with
      | true, some next => match rest with
        | [] => .ok (switches ++ [o], .pending next)
        | d :: more => unfoldWord next true (switches ++ [o]) (d :: more)
      | _, _ => .error (.valueIgnored o attached)

/-- The options of a word. -/
def optionsOf (o : Opt) (short : Bool) :
    Option (List Char) → Except UsageError (List Opt × Ending)
  | none => .ok ([], .pending o)
  | some attached => unfoldWord o short [] attached

/-! ## 3. All words -/

/-- Where reading stands with the inputs. -/
inductive Stage where
  /-- There was none so far. -/
  | before
  /-- The run of inputs goes on. -/
  | within
  /-- It has ended. -/
  | after
  deriving DecidableEq, Repr, Inhabited

/-- What has been read. -/
structure Reading where
  /-- The arguments. -/
  arguments : Arguments
  /-- Where reading stands with the inputs. -/
  stage : Stage
  /-- The words that mean nothing. -/
  unknown : List String
  deriving DecidableEq, Repr, Inhabited

namespace Reading

/-- Nothing so far. -/
def start : Reading := ⟨.standard, .before, []⟩

/-- The run of inputs, if one goes on, ends. -/
def closeRun (r : Reading) : Reading :=
  match r.stage with
  | .within => { r with stage := .after }
  | _ => r

/-- A word that means nothing. -/
def addUnknown (r : Reading) (text : String) : Reading :=
  { r with unknown := r.unknown ++ [text] }

/-- An argument. -/
def addArgument (r : Reading) (text : String) : Reading :=
  match r.stage with
  | .after => r.addUnknown text
  | _ =>
    { r with
      stage := .within
      arguments := { r.arguments with files := r.arguments.files ++ [text] } }

/-- Two dashes. -/
def addSeparator (r : Reading) : Reading :=
  match r.stage with
  | .after => r.addUnknown "--"
  | _ => { r with stage := .within }

/-- Some options without values. -/
def addSwitches (r : Reading) (os : List Opt) : Except Halt Reading := do
  return { r with arguments := ← os.foldlM Arguments.switch r.arguments }

/-- An option with its value. -/
def addValue (r : Reading) (o : Opt) (value : String) : Except Halt Reading := do
  return { r with arguments := ← r.arguments.assign value o }

/-- Reads words. -/
def words (r : Reading) : List Word → Except Halt Reading
  | [] => .ok r
  | .argument text :: rest => words (r.addArgument text) rest
  | .separator :: rest => words r.addSeparator rest
  | .unknown text :: rest => words (r.closeRun.addUnknown text) rest
  | .option o short attached :: rest =>
    match optionsOf o short attached with
    | .error e => .error (.misuse e)
    | .ok (switches, .value o value) => do
      let r ← r.closeRun.addSwitches switches
      words (← r.addValue o value) rest
    | .ok (switches, .pending o) =>
      if o.takesValue then
        match rest with
        | .argument value :: rest => do
          let r ← r.closeRun.addSwitches switches
          words (← r.addValue o value) rest
        | _ => .error (.misuse (.valueExpected o))
      else do
        let r ← r.closeRun.addSwitches (switches ++ [o])
        words r rest

end Reading

/-- The arguments that the words of a command line ask for. -/
def Arguments.read (line : List String) : Except Halt Arguments := do
  let words ← (Word.readAll line).mapError .misuse
  let r ← Reading.start.words words
  if r.unknown.isEmpty then return r.arguments
  else throw (.misuse (.unrecognized r.unknown))

end DomainGen.Command
