import MismatchLog.Path

/-!
Where a log comes from and where a report goes: a file, or a standard stream.
-/

namespace MismatchLog

inductive Source where
  | stdin
  | file (path : Text)
  deriving DecidableEq, Repr

namespace Source

/-- A dash means standard input. -/
def ofArgument (arg : Text) : Source := if Path.isDash arg then .stdin else .file arg

/-- The name in messages. -/
def display : Source → Text
  | .stdin => "<stdin>".toList
  | .file path => path

end Source

inductive Destination where
  | stdout
  | file (path : Text)
  deriving DecidableEq, Repr

namespace Destination

/-- A dash, or no argument at all, means standard output. -/
def ofArgument? : Option Text → Destination
  | none => .stdout
  | some arg => if Path.isDash arg then .stdout else .file arg

/-- The name in messages. -/
def display : Destination → Text
  | .stdout => "<stdout>".toList
  | .file path => path

end Destination
end MismatchLog
