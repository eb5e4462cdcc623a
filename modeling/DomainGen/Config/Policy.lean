import DomainGen.Data.Entries
import DomainGen.Failure

/-!
# Naming policies from plain data

A naming policy is written as a mapping of three texts and, if need be, a truth value.

* `NamingPolicy.ofData` : reading. Unknown options come before missing ones, and those before
  options of another kind;
* `PolicyOptions` : the options before they are checked; `PolicyOptions.entries` writes them;
* `refuseUnknown` : the check of the keys of a mapping against the known ones.
-/

namespace DomainGen

/-! ## 1. Unknown keys -/

/-- The texts of some values, if all of them are texts. -/
def allTexts? : List Data → Option (List String)
  | [] => some []
  | .text s :: rest => (allTexts? rest).map (s :: ·)
  | _ :: _ => none

/-- Refuses entries with unknown keys, naming them in order. Unknown keys that are not all texts
    cannot be named. -/
def refuseUnknown (es : Entries) (known : List String) (problem : List String → ConfigError) :
    Except Failure Unit :=
  let unknown := (es.map (·.1)).filter fun k =>
    match k with
    | .text s => !known.contains s
    | _ => true
  if unknown.isEmpty then .ok ()
  else match allTexts? unknown with
    | some names => .error (.config (problem (names.mergeSort fun a b => decide (a ≤ b))))
    | none => .error (.fault .wrongKind)

/-! ## 2. Policies -/

namespace NamingPolicy

/-- The options every policy gives. -/
def requiredOptions : List String := ["extension", "folder", "suffix"]

/-- The option of a truth value. -/
def prefixOption : String := "prefix_aggregate_name"

/-- A required option that is a text. -/
def textOption (role : String) (es : Entries) (name : String) : Except Failure String :=
  match es.get? name with
  | some (.text s) => .ok s
  | _ => .error (.config (.optionNotText role name))

/-- The policy a value gives for a role. -/
def ofData (role : String) (data : Data) : Except Failure NamingPolicy := do
  match data with
  | .mapping es =>
    refuseUnknown es (requiredOptions ++ [prefixOption]) (.unknownOptions role)
    let missing := requiredOptions.filter fun name => (Entries.get? es name).isNone
    if !missing.isEmpty then throw (.config (.missingOptions role missing))
    let extension ← textOption role es "extension"
    let folder ← textOption role es "folder"
    let suffix ← textOption role es "suffix"
    match Entries.get? es prefixOption with
    | none => return ⟨extension, folder, suffix, false⟩
    | some (.bool b) => return ⟨extension, folder, suffix, b⟩
    | some _ => throw (.config (.optionNotBool role))
  | _ => throw (.config (.policyNotMapping role))

end NamingPolicy

/-! ## 3. Unchecked options -/

/-- The options of a naming policy as plain values of any kind. -/
structure PolicyOptions where
  /-- Appended to every file name. -/
  extension : Data
  /-- Output folder. -/
  folder : Data
  /-- Ending of every published name. -/
  suffix : Data
  /-- Is the aggregate's name put in front? -/
  prefixAggregateName : Data
  deriving Repr, Inhabited

/-- The options of a policy. -/
def NamingPolicy.options (p : NamingPolicy) : PolicyOptions :=
  ⟨.text p.extension, .text p.folder, .text p.suffix, .bool p.prefixAggregateName⟩

namespace PolicyOptions

/-- The options that entries give, of whatever kind. They must be complete and known. -/
def ofEntries (es : Entries) : Except Fault PolicyOptions :=
  let known := NamingPolicy.requiredOptions ++ [NamingPolicy.prefixOption]
  let isKnown : Data → Bool := fun key => (key.text?).any known.contains
  match es.get? "extension", es.get? "folder", es.get? "suffix" with
  | some extension, some folder, some suffix =>
    if es.all fun e => isKnown e.1 then
      .ok ⟨extension, folder, suffix, (es.get? NamingPolicy.prefixOption).getD (.bool false)⟩
    else .error .wrongKind
  | _, _, _ => .error .wrongKind

/-- The options as entries. -/
def entries (o : PolicyOptions) : Entries :=
  Entries.ofFields [("extension", o.extension), ("folder", o.folder), ("suffix", o.suffix),
    (NamingPolicy.prefixOption, o.prefixAggregateName)]

/-- The policy of options that are three texts and a truth value. -/
def policy? (o : PolicyOptions) : Option NamingPolicy :=
  match o with
  | ⟨.text extension, .text folder, .text suffix, .bool b⟩ => some ⟨extension, folder, suffix, b⟩
  | _ => none

/-- A policy is that of its options. -/
@[simp] theorem policy?_options (p : NamingPolicy) : p.options.policy? = some p := rfl

end PolicyOptions

end DomainGen
