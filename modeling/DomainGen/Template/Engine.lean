import DomainGen.Failure
import DomainGen.Template.Builtin
import DomainGen.Template.Preparation
import DomainGen.Template.Rendering
import DomainGen.Text.Case

/-!
# The template engine

An engine finds templates by name, first among those it holds itself, then in its folders, and
renders them. A template is read once and then kept.

* `Engine.make`, `Engine.ofSettings` : building an engine;
* `Engine.provides`, `Engine.compile`, `Engine.compileAll`, `Engine.add` : finding and reading;
* `Engine.render`, `Engine.renderString` : rendering. Markup is escaped in templates for pages and
  in templates given as texts.

A template from a file that was read once stays the template of its name, even if the engine gets
one of that name to hold; one that the engine holds gives way to its replacement.
-/

namespace DomainGen

open Text

/-! ## 1. Engines -/

/-- Where a template was found. -/
inductive Template.Origin where
  /-- The engine itself, with this source. -/
  | held (source : String)
  | file
  deriving DecidableEq, Repr, Inhabited

/-- A template engine. -/
structure Engine where
  /-- The sources the engine holds, by name. -/
  held : List (String × String)
  /-- The folders that are searched, in order. -/
  folders : List Path
  /-- The encoding of template files. -/
  encoding : Data
  /-- The templates in use, by name. -/
  compiled : List (String × Template)
  /-- The templates that were read, by name. -/
  cache : List (String × Template × Template.Origin)
  deriving Repr, Inhabited

namespace Engine

/-- An engine with the folders that are there. -/
def make (tree : FileTree) (folders : List Path) (held : List (String × String))
    (encoding : Data) : Engine :=
  ⟨held, folders.filter tree.isFolder, encoding, [], []⟩

/-- The path a setting gives; it must be a text. -/
def pathOf (setting : Data) : Except Failure Path :=
  match setting with
  | .text s => .ok (Path.ofString s)
  | _ => .error (.fault .wrongKind)

/-- An engine for a template set and a folder that comes before it. Settings that count as false are
    left out; without a folder or templates of its own the engine needs a set that is there. -/
def ofSettings (tree : FileTree) (set folder : Data) (held : List (String × String))
    (encoding : Data) : Except Failure Engine := do
  let own ← if folder.isTrue then do
      let p ← pathOf folder
      if !(← (tree.holdsFolder p).mapError .fault) then
        throw (.template (.folderNotFound p.text))
      pure [p]
    else pure []
  let builtin ← if set.isTrue then do
      let p := Template.Builtin.folder.append (← pathOf set)
      if ← (tree.holdsFolder p).mapError .fault then pure [p]
      else if own.isEmpty && held.isEmpty then
        throw (.template (.unknownSet (← set.asText.mapError .fault) Template.Builtin.sets))
      else pure []
    else pure []
  return make tree (own ++ builtin) held encoding

/-! ## 2. Finding -/

/-- The name of the encoding of template files. -/
def encodingName (e : Engine) : Except Fault String :=
  match e.encoding with
  | .null => .ok "utf-8"
  | .text s => .ok s
  | _ => .error .wrongKind

/-- The components of a template's name. A name does not lead out of its folder. -/
def nameComponents? (name : String) : Option (List String) :=
  let pieces := (splitAt '/' name.toList).map String.ofList
  if pieces.contains ".." then none
  else some (pieces.filter fun p => p != "" && p != ".")

/-- The file of a template in one of some folders. -/
def fileIn? (tree : FileTree) (components : List String) : List Path → Option Path
  | [] => none
  | folder :: rest =>
    let p := folder.append ⟨.relative, components⟩
    if tree.isFile p then some p else fileIn? tree components rest

/-- The source of a template and where it was found, if it is there. -/
def source? (e : Engine) (tree : FileTree) (name : String) :
    Except Fault (Option (String × Template.Origin)) :=
  match e.held.lookup name with
  | some s => .ok (some (s, .held s))
  | none =>
    match (nameComponents? name).bind fun cs => fileIn? tree cs e.folders with
    | none => .ok none
    | some p => do
      let encoding ← e.encodingName
      return some (← tree.readText p encoding, .file)

/-- The name of a template that a setting gives. What is not a text names nothing, and only
    searching folders notices that. -/
def nameOf (e : Engine) (name : Data) : Except Failure String :=
  match name with
  | .text s => .ok s
  | name =>
    if !name.hashable then .error (.fault .wrongKind)
    else if e.folders.isEmpty then .error (.template (.notFound name.plain))
    else match name with
      | .bytes _ => .error (.fault .wrongKind)
      | _ => .error (.fault .missingMember)

/-- Is there a source for a template? -/
def provides (e : Engine) (tree : FileTree) (name : Data) : Except Failure Bool :=
  match e.nameOf name with
  | .error (.template _) => .ok false
  | .error f => .error f
  | .ok name => match e.source? tree name with
    | .ok found => .ok found.isSome
    | .error f => .error (.fault f)

/-! ## 3. Reading -/

/-- Is markup escaped in a template with this name? -/
def escapes (name : String) : Bool :=
  let s := lower name.toList
  ".html".toList.isSuffixOf s || ".xml".toList.isSuffixOf s

/-- A template that was read before and still counts. -/
def cached? (e : Engine) (name : String) : Option (Template × Template.Origin) :=
  match e.cache.lookup name with
  | some (t, .file) => some (t, .file)
  | some (t, .held source) =>
    if e.held.lookup name == some source then some (t, .held source) else none
  | none => none

/-- Reads a template anew. -/
def load (e : Engine) (tree : FileTree) (name : String) :
    Except Failure (Template × Template.Origin) :=
  match e.source? tree name with
  | .error f => .error (.fault f)
  | .ok none => .error (.template (.notFound name))
  | .ok (some (source, origin)) =>
    match Template.ofSource (some name) (escapes name) source with
    | .ok t => .ok (t, origin)
    | .error .form => .error (.template (.invalid name source))
    | .error (.fault f) => .error (.fault f)

/-- The template with a name. The engine keeps what it reads. -/
def compile (e : Engine) (tree : FileTree) (name : Data) : Engine × Except Failure Template :=
  match e.nameOf name with
  | .error f => (e, .error f)
  | .ok name =>
    match e.compiled.lookup name with
    | some t => (e, .ok t)
    | none =>
      match e.cached? name with
      | some (t, _) => ({ e with compiled := (name, t) :: e.compiled }, .ok t)
      | none => match e.load tree name with
        | .error f => (e, .error f)
        | .ok (t, origin) =>
          ({ e with compiled := (name, t) :: e.compiled, cache := (name, t, origin) :: e.cache },
            .ok t)

/-- Reads several templates, each once; the names read, up to the first failure. -/
def compileAll (tree : FileTree) : Engine → List Data → (done : List Data) →
    Engine × Except Failure (List Data)
  | e, [], done => (e, .ok done)
  | e, name :: rest, done =>
    if done.any fun d => d.equal name then compileAll tree e rest done
    else match e.compile tree name with
      | (e, .ok _) => compileAll tree e rest (done ++ [name])
      | (e, .error f) => (e, .error f)

/-- The engine with one more template to hold. -/
def add (e : Engine) (name source : String) : Engine :=
  { e with
    held := (name, source) :: e.held.filter (·.1 != name)
    compiled := e.compiled.filter (·.1 != name) }

/-! ## 4. Rendering -/

/-- The text of the template with a name in a context. -/
def render (e : Engine) (tree : FileTree) (name : Data) (context : Entries) :
    Engine × Except Failure String :=
  match e.compile tree name with
  | (e, .error f) => (e, .error f)
  | (e, .ok t) =>
    (e, (t.render context).mapError fun f =>
      .template (.notRendered (some name.plain) t context f))

/-- The text of a template given as a text in a context. -/
def renderString (source : String) (context : Entries) : Except Failure String :=
  match Template.ofSource none true source with
  | .error _ => .error (.template (.invalidText source))
  | .ok t => (t.render context).mapError fun f => .template (.notRendered none t context f)

end Engine

end DomainGen
