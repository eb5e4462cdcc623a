import DomainGen.Config.Basic
import DomainGen.Data.Text
import DomainGen.Path

/-!
# Warnings about a configuration

What is allowed in a configuration but most likely not meant: missing or empty naming options, two
kinds of files in one folder, index files with one path.
-/

namespace DomainGen

/-- Parts of an output path, joined. Parts that count as false are left out, the others must be
    texts. -/
def joinParts (parts : List Data) : Except Fault String :=
  match (parts.filter Data.isTrue).mapM Data.text? with
  | some texts => .ok (joinPath texts)
  | none => .error .wrongKind

/-- Something in a configuration that is most likely not meant. -/
inductive ConfigWarning where
  | noPolicy (role : String)
  | emptySuffix (role : String)
  | extensionWithoutDot (role extension : String)
  | emptyFolder (role : String)
  | sharesAggregateFolder (kind : Kind) (folder : String)
  | sharesFolder (kind first : Kind) (folder : String)
  | indexClash (kind : Kind) (index : String)
  deriving DecidableEq, Repr, Inhabited

/-- The warning in words. -/
def ConfigWarning.message : ConfigWarning → String
  | noPolicy role => "No naming policy for '" ++ role ++ "'"
  | emptySuffix role => "Empty suffix for '" ++ role ++ "'"
  | extensionWithoutDot role extension =>
    "Extension for '" ++ role ++ "' does not start with a dot: " ++ extension
  | emptyFolder role => "Empty output folder for '" ++ role ++ "'"
  | sharesAggregateFolder kind folder =>
    "'" ++ kind.text ++ "' files share the aggregate folder '" ++ folder ++ "' and its index file"
  | sharesFolder kind first folder =>
    "'" ++ kind.text ++ "' and '" ++ first.text ++ "' share the folder '" ++ folder ++ "'"
  | indexClash kind index =>
    "'" ++ kind.text ++ "' index '" ++ index ++ "' clashes with the root index"

namespace Config

/-- Is it a text that begins with a dot? Only texts can be asked. -/
def beginsWithDot : Data → Except Fault Bool
  | .text s => .ok (s.toList.head? == some '.')
  | .bytes _ => .error .wrongKind
  | _ => .error .missingMember

/-- A warning about a suffix that counts as false. -/
def suffixWarnings (role : Data) (o : PolicyOptions) : Except Fault (List ConfigWarning) :=
  if o.suffix.isTrue then .ok [] else return [.emptySuffix (← role.asText)]

/-- A warning about an extension without a dot. One that counts as false is not looked at. -/
def extensionWarnings (role : Data) (o : PolicyOptions) : Except Fault (List ConfigWarning) :=
  if o.extension.isTrue then do
    let dotted ← beginsWithDot o.extension
    if dotted then .ok []
    else return [.extensionWithoutDot (← role.asText) (← o.extension.asText)]
  else .ok []

/-- A warning about a folder that counts as false. -/
def emptyFolderWarnings (role : Data) (o : PolicyOptions) : Except Fault (List ConfigWarning) :=
  if o.folder.isTrue then .ok [] else return [.emptyFolder (← role.asText)]

/-- Warnings about the options of one policy. -/
def policyWarnings (role : Data) (o : PolicyOptions) : Except Fault (List ConfigWarning) := do
  let suffix ← suffixWarnings role o
  let extension ← extensionWarnings role o
  let folder ← emptyFolderWarnings role o
  return suffix ++ extension ++ folder

/-- Warnings about the options of all policies. -/
def allPolicyWarnings : List (Data × PolicyOptions) → Except Fault (List ConfigWarning)
  | [] => .ok []
  | (role, o) :: rest => do
    let first ← policyWarnings role o
    return first ++ (← allPolicyWarnings rest)

/-- Warnings about kinds in the folder of the aggregates. -/
def aggregateFolderWarnings (c : Config) (aggregate : Data) : List Kind →
    Except Fault (List ConfigWarning)
  | [] => .ok []
  | k :: rest =>
    match c.optionsOf? k.text with
    | none => aggregateFolderWarnings c aggregate rest
    | some o =>
      if o.folder.equal aggregate then do
        let folder ← o.folder.asText
        return .sharesAggregateFolder k folder :: (← aggregateFolderWarnings c aggregate rest)
      else aggregateFolderWarnings c aggregate rest

/-- Warnings about kinds in the folder of the aggregates, if aggregates have a policy. -/
def sharedFolderWarnings (c : Config) : Except Fault (List ConfigWarning) :=
  match c.optionsOf? aggregateRole with
  | none => .ok []
  | some o => c.aggregateFolderWarnings o.folder Kind.all

/-- Warnings about kinds in a folder of a kind before them. `seen` holds the folders so far with
    the first kind in each. -/
def folderWarnings (c : Config) (seen : List (Data × Kind)) : List Kind →
    Except Fault (List ConfigWarning)
  | [] => .ok []
  | k :: rest =>
    match c.optionsOf? k.text with
    | none => folderWarnings c seen rest
    | some o =>
      if !o.folder.hashable then .error .wrongKind
      else match seen.find? fun e => e.1.sameKey o.folder with
        | some (_, first) => do
          let folder ← o.folder.asText
          return .sharesFolder k first folder :: (← folderWarnings c seen rest)
        | none => folderWarnings c ((o.folder, k) :: seen) rest

/-- Warnings about the index of a kind at the path of the index of the kinds. -/
def indexWarnings (c : Config) (root : String) : List Kind → Except Fault (List ConfigWarning)
  | [] => .ok []
  | k :: rest =>
    match c.optionsOf? k.text with
    | none => indexWarnings c root rest
    | some o => do
      let index ← joinParts [o.folder, c.subModuleName]
      let later ← indexWarnings c root rest
      return if index == root then .indexClash k index :: later else later

/-- All warnings. -/
def warnings (c : Config) : Except Fault (List ConfigWarning) := do
  let missing := namingRoles.filter fun r => (c.optionsOf? r).isNone
  let options ← allPolicyWarnings c.naming
  let aggregates ← c.sharedFolderWarnings
  let folders ← c.folderWarnings [] Kind.all
  let root ← joinParts [c.rootModuleName]
  let clashes ← c.indexWarnings root Kind.all
  return missing.map .noPolicy ++ options ++ aggregates ++ folders ++ clashes

end Config

end DomainGen
