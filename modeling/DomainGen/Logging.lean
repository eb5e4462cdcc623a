import DomainGen.Text.Case

/-!
# Logging

Every logger has a place below the logger of the program, and a set-up decides from which level on
its messages are shown.

* `loggerName` : the name of the logger of a module;
* `Level.ofName` : levels by name;
* `Logging.setUp` : the first set-up adds a handler, every later one only moves the level.
-/

namespace DomainGen

open Text

/-! ## 1. Names -/

/-- The name of the logger above all others. -/
def rootLogger : String := "aggregate_codegen"

/-- The name of the logger of a module. -/
def loggerName (name : String) : String :=
  if name == rootLogger || (rootLogger ++ ".").toList.isPrefixOf name.toList then name
  else rootLogger ++ "." ++ name

/-! ## 2. Levels -/

/-- A level; messages below it are not shown. -/
abbrev Level := Int

namespace Level

/-- The level of warnings. -/
def warning : Level := 30

/-- The levels with a name. -/
def named : List (String × Level) :=
  [("CRITICAL", 50), ("FATAL", 50), ("ERROR", 40), ("WARN", 30), ("WARNING", 30), ("INFO", 20),
   ("DEBUG", 10), ("NOTSET", 0)]

/-- The level of a name in any case; other names count as the level of warnings. -/
def ofName (name : String) : Level :=
  (named.lookup (upperString name)).getD warning

end Level

/-! ## 3. Set-up -/

/-- Where messages are shown. -/
inductive Handler where
  /-- On the console. -/
  | console
  /-- On a stream, as plain lines. -/
  | stream
  deriving DecidableEq, Repr, Inhabited

/-- The state of the logging of the program. -/
structure Logging where
  /-- From which level on messages are logged. -/
  level : Level
  /-- The handlers, each with the level from which on it shows messages. -/
  handlers : List (Handler × Level)
  /-- Are messages passed on to loggers outside the program? -/
  propagates : Bool
  deriving DecidableEq, Repr, Inhabited

namespace Logging

/-- Logging that nobody has set up. -/
def unset : Logging := ⟨0, [], true⟩

/-- Sets a level up. The kind of handler is that of the first set-up. -/
def setUp (l : Logging) (level : Level) (h : Handler) : Logging :=
  if l.handlers.isEmpty then ⟨level, [(h, level)], false⟩
  else { l with level, handlers := l.handlers.map fun e => (e.1, level) }

/-- Every set-up after the first keeps the handlers. -/
theorem handlers_setUp_setUp (l : Logging) (a b : Level) (h k : Handler) :
    ((l.setUp a h).setUp b k).handlers.map (·.1) = (l.setUp a h).handlers.map (·.1) := by
  unfold setUp
  by_cases hl : l.handlers.isEmpty
  · simp [hl]
  · have hm : (l.handlers.map fun e : Handler × Level => (e.1, a)).isEmpty = false := by
      simpa using hl
    simp [hl, hm, Function.comp_def]

/-- After a set-up the logger and all its handlers have its level. -/
theorem level_setUp (l : Logging) (a : Level) (h : Handler) :
    (l.setUp a h).level = a ∧ ∀ e ∈ (l.setUp a h).handlers, e.2 = a := by
  unfold setUp
  split
  · simp
  · simp only [List.mem_map, true_and]
    rintro e ⟨x, -, rfl⟩
    rfl

end Logging

end DomainGen
