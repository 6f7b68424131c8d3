import MismatchLog.Text

/-!
Levels of events, from the gravest to the most detailed.
-/

namespace MismatchLog

inductive Level where
  | error
  | warn
  | info
  | debug
  | trace
  deriving DecidableEq, Repr

namespace Level

def all : List Level := [.error, .warn, .info, .debug, .trace]

def name : Level → Text
  | .error => "error".toList
  | .warn => "warn".toList
  | .info => "info".toList
  | .debug => "debug".toList
  | .trace => "trace".toList

/-- Reads a name in any letter case. -/
def ofName? (t : Text) : Option Level := all.find? fun l => l.name = Text.lower t

/-- How much detail a threshold at this level lets through. -/
def detail : Level → Nat
  | .error => 1
  | .warn => 2
  | .info => 3
  | .debug => 4
  | .trace => 5

end Level
end MismatchLog
