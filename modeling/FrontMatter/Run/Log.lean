/-!
# `FrontMatter.Run.Log` — what a run tells about itself

## Contents

* `Level`, `Level.rank`, `Level.ofWord?`: how grave a record is, and the names of thresholds.
* `LogRecord`, `Log`: records in the order in which they were made.
* `Log.above`, `Log.sorted`: the records from a level on, and in a fixed order.
-/

namespace FrontMatter

/-- How grave a record is. -/
inductive Level
  | info
  | warning
  | error
  deriving Repr, DecidableEq

/-- The name of a level. -/
def Level.word : Level → String
  | .info => "INFO"
  | .warning => "WARNING"
  | .error => "ERROR"

/-- The gravity of a level as a number. -/
def Level.rank : Level → Nat
  | .info => 20
  | .warning => 30
  | .error => 40

/-- The names of thresholds, with the least gravity that they let pass. -/
def thresholds : List (String × Nat) :=
  [("CRITICAL", 50), ("FATAL", 50), ("ERROR", 40), ("WARN", 30), ("WARNING", 30), ("INFO", 20),
   ("DEBUG", 10), ("NOTSET", 0)]

/-- The threshold of a given name. -/
def threshold? (name : String) : Option Nat :=
  thresholds.lookup name

/-- One record: how grave it is, who tells it, and what it says. -/
structure LogRecord where
  level : Level
  logger : String
  message : String
  deriving Repr, DecidableEq

/-- Records in the order in which they were made. -/
abbrev Log := List LogRecord

namespace Log

/-- The records from a gravity on. -/
def above (least : Nat) (log : Log) : Log :=
  log.filter fun r => least ≤ r.level.rank

/-- Whether a record comes before another one or is equal to it: by level, then by logger, then by
message. -/
def before (a b : LogRecord) : Bool :=
  if a.level.word != b.level.word then a.level.word < b.level.word
  else if a.logger != b.logger then a.logger < b.logger
  else !(b.message < a.message)

/-- The records in a fixed order. -/
def sorted (log : Log) : Log :=
  log.mergeSort before

end Log

end FrontMatter
