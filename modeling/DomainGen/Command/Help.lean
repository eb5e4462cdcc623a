/-!
# Help

What the command tells about itself: how it is used, and what its options do.
-/

namespace DomainGen.Command

/-- How the command is used. -/
def usageLines : List String :=
  ["usage: aggregate-codegen [-h] [--url URL] [--stdin] [--output DIR]",
   "                         [--config FILE] [--template-set NAME]",
   "                         [--template-dir DIR] [--extension EXT] [--atomic]",
   "                         [--no-empty-root-index] [--dry-run]",
   "                         [--list-template-sets] [--verbose]",
   "                         [--log-level \x7bDEBUG,INFO,WARNING,ERROR\x7d]",
   "                         [FILE ...]"]

/-- What the options do. -/
def optionLines : List String :=
  ["Generate aggregate, command, event and fault files from YAML models",
   "",
   "positional arguments:",
   "  FILE                  YAML model files, or directories containing them",
   "",
   "options:",
   "  -h, --help            show this help message and exit",
   "  --url URL             URL to fetch a YAML model from",
   "  --stdin               Read a YAML model from standard input",
   "  --output DIR, -o DIR  Output directory (default: generated)",
   "  --config FILE         Configuration file (JSON or YAML)",
   "",
   "templates:",
   "  --template-set NAME   Built-in template set (use --list-template-sets to see",
   "                        options)",
   "  --template-dir DIR    Directory with templates overriding the template set",
   "  --extension EXT       File extension for every generated file (e.g. .ts)",
   "",
   "emission:",
   "  --atomic              Write a model's files only if all of them were",
   "                        generated",
   "  --no-empty-root-index",
   "                        Skip the root index when a model has no commands,",
   "                        events or faults",
   "  --dry-run             Show the files that would be generated without writing",
   "                        them",
   "",
   "information:",
   "  --list-template-sets  List built-in template sets and exit",
   "  --verbose, -v         Show generated class names and configuration warnings",
   "  --log-level \x7bDEBUG,INFO,WARNING,ERROR\x7d",
   "                        Logging level (default: WARNING)",
   "",
   "Examples:",
   "  aggregate-codegen model.yaml",
   "  aggregate-codegen specs/ --template-set typescript -o src/domain",
   "  aggregate-codegen --stdin --dry-run < model.yaml",
   "  aggregate-codegen --list-template-sets"]

/-- The help. -/
def helpLines : List String := usageLines ++ [""] ++ optionLines

end DomainGen.Command
