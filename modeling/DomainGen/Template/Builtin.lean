import DomainGen.FileTree

/-!
# The built-in template sets

Two sets of templates: classes of one module per file, and typed classes. Each set has a template
for aggregates and each kind of entity, and one for indexes; the typed set has one more, for the
index of a kind.

* `sources` : the templates of all sets;
* `folder`, `install` : where they stand in a file tree.
-/

namespace DomainGen.Template.Builtin

/-- A text of lines, each ended by a line feed. -/
def lines (ls : List String) : String :=
  String.join (ls.map (· ++ "\n"))

/-! ## 1. Modules -/

/-- An aggregate. -/
def plainAggregate : String :=
  lines [
    "'use strict';",
    "\x7b% if description %\x7d",
    "/**",
    "\x7b\x7b description | comment(' *') \x7d\x7d",
    " */",
    "\x7b% endif %\x7d",
    "class \x7b\x7b className \x7d\x7d \x7b",
    "  constructor(id) \x7b",
    "    this.id = id;",
    "    this.version = 0;",
    "  \x7d",
    "\x7b% for name, command in (commands or \x7b\x7d).items() %\x7d",
    "",
    "  /**",
    "   * Handle \x7b\x7b command.className \x7d\x7d.",
    "   */",
    "  \x7b\x7b name \x7d\x7d(command) \x7b",
    "    throw new Error('\x7b\x7b className \x7d\x7d.\x7b\x7b name \x7d\x7d is not implemented');",
    "  \x7d",
    "\x7b% endfor %\x7d",
    "\x7b% for name, event in (events or \x7b\x7d).items() %\x7d",
    "",
    "  /**",
    "   * Apply \x7b\x7b event.className \x7d\x7d.",
    "   */",
    "  on\x7b\x7b event.className \x7d\x7d(event) \x7b",
    "    this.version += 1;",
    "  \x7d",
    "\x7b% endfor %\x7d",
    "\x7d",
    "",
    "module.exports = \x7b\x7b className \x7d\x7d;"]

/-- A command or an event. -/
def plainEntity : String :=
  lines [
    "'use strict';",
    "",
    "/**",
    " * \x7b\x7b className \x7d\x7d, owned by \x7b\x7b aggregate.className \x7d\x7d.",
    "\x7b% if description %\x7d",
    " *",
    "\x7b\x7b description | comment(' *') \x7d\x7d",
    "\x7b% endif %\x7d",
    " */",
    "class \x7b\x7b className \x7d\x7d \x7b",
    "  constructor(data) \x7b",
    "    data = data || \x7b\x7d;",
    "\x7b% for property in (properties or \x7b\x7d) %\x7d",
    "    this.\x7b\x7b property \x7d\x7d = data.\x7b\x7b property \x7d\x7d;",
    "\x7b% endfor %\x7d",
    "  \x7d",
    "\x7d",
    "",
    "module.exports = \x7b\x7b className \x7d\x7d;"]

/-- A fault. -/
def plainFault : String :=
  lines [
    "'use strict';",
    "",
    "/**",
    " * \x7b\x7b className \x7d\x7d, owned by \x7b\x7b aggregate.className \x7d\x7d.",
    "\x7b% if description %\x7d",
    " *",
    "\x7b\x7b description | comment(' *') \x7d\x7d",
    "\x7b% endif %\x7d",
    " */",
    "class \x7b\x7b className \x7d\x7d extends Error \x7b",
    "  constructor(data) \x7b",
    "    super('\x7b\x7b message or className \x7d\x7d');",
    "    this.name = '\x7b\x7b className \x7d\x7d';",
    "    data = data || \x7b\x7d;",
    "\x7b% for property in (properties or \x7b\x7d) %\x7d",
    "    this.\x7b\x7b property \x7d\x7d = data.\x7b\x7b property \x7d\x7d;",
    "\x7b% endfor %\x7d",
    "  \x7d",
    "\x7d",
    "",
    "module.exports = \x7b\x7b className \x7d\x7d;"]

/-- An index. -/
def plainIndex : String :=
  lines [
    "'use strict';",
    "",
    "\x7b% for item in items %\x7d",
    "module.exports.\x7b\x7b item.className \x7d\x7d = require('./\x7b\x7b item.fileName | strip_extension \x7d\x7d');",
    "\x7b% endfor %\x7d"]

/-! ## 2. Typed classes -/

/-- An aggregate. -/
def typedAggregate : String :=
  lines [
    "\x7b% for name, command in (commands or \x7b\x7d).items() %\x7d",
    "import \x7b \x7b\x7b command.className \x7d\x7d \x7d from '\x7b\x7b kindPaths.command \x7d\x7d/\x7b\x7b command.fileName | strip_extension \x7d\x7d';",
    "\x7b% endfor %\x7d",
    "\x7b% for name, event in (events or \x7b\x7d).items() %\x7d",
    "import \x7b \x7b\x7b event.className \x7d\x7d \x7d from '\x7b\x7b kindPaths.event \x7d\x7d/\x7b\x7b event.fileName | strip_extension \x7d\x7d';",
    "\x7b% endfor %\x7d",
    "\x7b% if description %\x7d",
    "",
    "/**",
    "\x7b\x7b description | comment(' *') \x7d\x7d",
    " */",
    "\x7b% endif %\x7d",
    "",
    "export class \x7b\x7b className \x7d\x7d \x7b",
    "  public version = 0;",
    "",
    "  constructor(public readonly id: string) \x7b\x7d",
    "\x7b% for name, command in (commands or \x7b\x7d).items() %\x7d",
    "",
    "  public \x7b\x7b name \x7d\x7d(command: \x7b\x7b command.className \x7d\x7d): void \x7b",
    "    throw new Error('\x7b\x7b className \x7d\x7d.\x7b\x7b name \x7d\x7d is not implemented');",
    "  \x7d",
    "\x7b% endfor %\x7d",
    "\x7b% for name, event in (events or \x7b\x7d).items() %\x7d",
    "",
    "  protected on\x7b\x7b event.className \x7d\x7d(event: \x7b\x7b event.className \x7d\x7d): void \x7b",
    "    this.version += 1;",
    "  \x7d",
    "\x7b% endfor %\x7d",
    "\x7d"]

/-- A command or an event. -/
def typedEntity : String :=
  lines [
    "/**",
    " * \x7b\x7b className \x7d\x7d, owned by \x7b\x7b aggregate.className \x7d\x7d.",
    "\x7b% if description %\x7d",
    " *",
    "\x7b\x7b description | comment(' *') \x7d\x7d",
    "\x7b% endif %\x7d",
    " */",
    "export class \x7b\x7b className \x7d\x7d \x7b",
    "\x7b% for property, type in (properties or \x7b\x7d).items() %\x7d",
    "  public readonly \x7b\x7b property \x7d\x7d: \x7b\x7b type or 'unknown' \x7d\x7d;",
    "\x7b% endfor %\x7d",
    "",
    "  constructor(data: Partial<\x7b\x7b className \x7d\x7d> = \x7b\x7d) \x7b",
    "\x7b% for property in (properties or \x7b\x7d) %\x7d",
    "    this.\x7b\x7b property \x7d\x7d = data.\x7b\x7b property \x7d\x7d!;",
    "\x7b% endfor %\x7d",
    "  \x7d",
    "\x7d"]

/-- A fault. -/
def typedFault : String :=
  lines [
    "/**",
    " * \x7b\x7b className \x7d\x7d, owned by \x7b\x7b aggregate.className \x7d\x7d.",
    "\x7b% if description %\x7d",
    " *",
    "\x7b\x7b description | comment(' *') \x7d\x7d",
    "\x7b% endif %\x7d",
    " */",
    "export class \x7b\x7b className \x7d\x7d extends Error \x7b",
    "\x7b% for property, type in (properties or \x7b\x7d).items() %\x7d",
    "  public readonly \x7b\x7b property \x7d\x7d: \x7b\x7b type or 'unknown' \x7d\x7d;",
    "\x7b% endfor %\x7d",
    "",
    "  constructor(data: Partial<\x7b\x7b className \x7d\x7d> = \x7b\x7d) \x7b",
    "    super('\x7b\x7b message or className \x7d\x7d');",
    "    this.name = '\x7b\x7b className \x7d\x7d';",
    "\x7b% for property in (properties or \x7b\x7d) %\x7d",
    "    this.\x7b\x7b property \x7d\x7d = data.\x7b\x7b property \x7d\x7d!;",
    "\x7b% endfor %\x7d",
    "  \x7d",
    "\x7d"]

/-- The index of a kind. -/
def typedKindIndex : String :=
  lines [
    "\x7b% for item in items %\x7d",
    "export \x7b \x7b\x7b item.className \x7d\x7d \x7d from './\x7b\x7b item.fileName | strip_extension \x7d\x7d';",
    "\x7b% endfor %\x7d"]

/-- The index of the kinds. -/
def typedIndex : String :=
  lines [
    "\x7b% for item in items %\x7d",
    "export * as \x7b\x7b item.className \x7d\x7d from './\x7b\x7b item.fileName | strip_extension \x7d\x7d';",
    "\x7b% endfor %\x7d"]

/-! ## 3. Sets -/

/-- The templates of every set by name. -/
def sources : List (String × List (String × String)) :=
  [("es6",
      [("aggregate.j2", plainAggregate), ("command.j2", plainEntity), ("event.j2", plainEntity),
        ("fault.j2", plainFault), ("module.j2", plainIndex)]),
    ("typescript",
      [("aggregate.j2", typedAggregate), ("command.j2", typedEntity), ("event.j2", typedEntity),
        ("fault.j2", typedFault), ("index.j2", typedKindIndex), ("module.j2", typedIndex)])]

/-- The names of the sets, in order. -/
def sets : List String := sources.map (·.1)

/-- Where the sets stand. -/
def place : Place := ["builtin", "templates"]

/-- The path of the folder of the sets. -/
def folder : Path := ⟨.single, place⟩

/-- The folders and files of one set. -/
def nodesOf (set : String) (templates : List (String × String)) : List (Place × Node) :=
  (place ++ [set], .folder)
    :: templates.map fun (name, source) =>
      (place ++ [set, name], .file (Utf8.encode source.toList))

/-- A file tree with the built-in sets in their place. -/
def install (t : FileTree) : FileTree :=
  { t with nodes := t.nodes ++ [(place.take 1, .folder), (place, .folder)]
      ++ sources.flatMap fun (set, templates) => nodesOf set templates }

end DomainGen.Template.Builtin
