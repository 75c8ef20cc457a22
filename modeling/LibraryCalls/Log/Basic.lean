import LibraryCalls.Json.Print

/-!
# Log records

A record is one line of compact JSON with a level and the name of the logger that wrote it.  The
line is an object that holds the name of the event under `event` and the event's fields beside it.

The levels are ordered by a rank, and a logger writes the records whose level is not below its own
threshold.  A record keeps its level and the name of its logger beside the line, so that whoever
shows it can put them where they belong.

The line is printed like every other JSON of this library: members by name, nothing but one line,
control characters escaped.  The name of the event comes first among the members that are given,
which the printed order does not show.

* `Log.Level.admits`: whether a record is written;
* `Log.line`, `Log.record?`: the line of an event, and its record if it is written.
-/

namespace LibraryCalls.Log

/-- How much a record matters. -/
inductive Level where
  | debug
  | info
  | warning
  | error
  deriving DecidableEq, Repr

namespace Level

def rank : Level → Nat
  | .debug => 10
  | .info => 20
  | .warning => 30
  | .error => 40

def name : Level → String
  | .debug => "DEBUG"
  | .info => "INFO"
  | .warning => "WARNING"
  | .error => "ERROR"

/-- Whether a logger with this threshold writes records of a level. -/
def admits (threshold level : Level) : Bool :=
  threshold.rank ≤ level.rank

end Level

/-- One line of a log. -/
structure Record where
  level : Level
  logger : String
  message : String
  deriving DecidableEq, Repr

def line (event : String) (fields : List (String × Json)) : String :=
  (Json.obj (("event", .str event) :: fields)).print

/-- The record of an event, unless the logger's threshold is above its level. -/
def record? (threshold level : Level) (logger event : String) (fields : List (String × Json)) :
    Option Record :=
  if threshold.admits level then some ⟨level, logger, line event fields⟩ else none

end LibraryCalls.Log
