/-!
# Log levels

A message is logged if its level is at most the level that is asked for.
-/

namespace VmMonitor

/-- Levels from nothing to everything. -/
inductive LogLevel
  | off
  | error
  | warn
  | info
  | debug
  | trace
  deriving DecidableEq, Repr, Inhabited

namespace LogLevel

def all : List LogLevel := [off, error, warn, info, debug, trace]

def name : LogLevel → String
  | off => "off"
  | error => "error"
  | warn => "warn"
  | info => "info"
  | debug => "debug"
  | trace => "trace"

def ofName? (s : String) : Option LogLevel := all.find? fun l => l.name = s

/-- How much a level admits. -/
def rank : LogLevel → Nat
  | off => 0
  | error => 1
  | warn => 2
  | info => 3
  | debug => 4
  | trace => 5

/-- Whether messages of a level are logged. -/
def admits (limit level : LogLevel) : Bool := level.rank ≤ limit.rank

/-- The name of a level in a line of the log. -/
def label (l : LogLevel) : String := String.ofList (l.name.toList.map Char.toUpper)

end LogLevel

end VmMonitor
