/-!
# Lexicon — the log

What the program says of its work beside its results: records in the order in which
they were made.

* `Level`, `Record` — a record and its weight.
* `Level.ofVerbosity` — the least weight that is shown.
* `loggerName`      — every logger's name lies below the program's own.
* `Logging`         — the state of the log's setup.
-/

namespace Lexicon.Log

/-- The weight of a record. -/
inductive Level where
  | debug
  | info
  | warning
  | error
  deriving DecidableEq, Repr, Inhabited

namespace Level

/-- The weight as a number. -/
def number : Level → Nat
  | debug => 10
  | info => 20
  | warning => 30
  | error => 40

/-- The name of a weight. -/
def name : Level → String
  | debug => "DEBUG"
  | info => "INFO"
  | warning => "WARNING"
  | error => "ERROR"

/-- The least weight that is shown at a verbosity: warnings, with one step more also
information, and everything beyond that. -/
def ofVerbosity (verbosity : Int) : Level :=
  if verbosity ≤ 0 then warning else if verbosity = 1 then info else debug

end Level

/-- A record of the log. -/
structure Record where
  level : Level
  logger : String
  message : String
  deriving DecidableEq, Repr, Inhabited

/-- The records that are shown at a level. -/
def shown (level : Level) (records : List Record) : List Record :=
  records.filter fun r => level.number ≤ r.level.number

/-- The name of the program's own logger. -/
def rootName : String := "lexgen"

/-- The name of a logger: it lies below the program's own. -/
def loggerName (name : String) : String :=
  if name = rootName || (rootName ++ ".").isPrefixOf name then name else rootName ++ "." ++ name

/-- The setup of the log. -/
structure Logging where
  level : Level := .warning
  handlers : Nat := 0
  handlerLevel : Level := .warning
  propagates : Bool := true
  deriving DecidableEq, Repr, Inhabited

/-- Sets the log up for a verbosity. There is one handler, whatever there was before. -/
def Logging.setUp (_ : Logging) (verbosity : Int) : Logging :=
  { level := .ofVerbosity verbosity, handlers := 1, handlerLevel := .ofVerbosity verbosity,
    propagates := false }

end Lexicon.Log
