/-!
Log entries.

A computation that logs gives its entries back in order; nothing is written while it runs.
-/

namespace ODataExplorer.Log

/-- How grave an entry is. An unset level is below all others. -/
inductive Level where
  | unset
  | debug
  | info
  | warning
  | error
  | critical
  deriving DecidableEq, Repr

def Level.name : Level → String
  | .unset => "NOTSET"
  | .debug => "DEBUG"
  | .info => "INFO"
  | .warning => "WARNING"
  | .error => "ERROR"
  | .critical => "CRITICAL"

/-- Levels in order of weight. -/
def Level.rank : Level → Nat
  | .unset => 0
  | .debug => 10
  | .info => 20
  | .warning => 30
  | .error => 40
  | .critical => 50

/-- The names under which levels can be asked for. -/
def levelNames : List (String × Level) := [
  ("CRITICAL", .critical), ("FATAL", .critical), ("ERROR", .error), ("WARN", .warning),
  ("WARNING", .warning), ("INFO", .info), ("DEBUG", .debug), ("NOTSET", .unset)]

/-- The level of a name. -/
def Level.named? (name : String) : Option Level := levelNames.lookup name

/-- One entry of a log. -/
structure Entry where
  level : Level
  message : String
  deriving DecidableEq, Repr

def Entry.debug (message : String) : Entry := ⟨.debug, message⟩

def Entry.info (message : String) : Entry := ⟨.info, message⟩

def Entry.warning (message : String) : Entry := ⟨.warning, message⟩

def Entry.error (message : String) : Entry := ⟨.error, message⟩

/-- An entry as one line. -/
def Entry.line (entry : Entry) : String :=
  entry.level.name ++ " " ++ entry.message

/-- The entries of at least a given weight. -/
def atLeast (level : Level) (entries : List Entry) : List Entry :=
  entries.filter fun entry => level.rank ≤ entry.level.rank

end ODataExplorer.Log
