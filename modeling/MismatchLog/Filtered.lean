import MismatchLog.Line
import MismatchLog.Sink

/-!
The filtered copy of a log: its lines without the marked ones, byte for byte. The marker is looked
for in the whole line, with its terminator.
-/

namespace MismatchLog.Filtered

structure Stats where
  kept : Nat
  removed : Nat
  deriving DecidableEq, Repr

def isRemoved (raw : Bytes) : Bool := Line.isMarked (Line.text raw)

/-- The lines that stay. -/
def lines (log : Bytes) : List Bytes := (Line.split log).filter fun raw => !isRemoved raw

def copy (log : Bytes) : Bytes := (lines log).flatten

def stats (log : Bytes) : Stats :=
  ⟨(Line.split log).countP fun raw => !isRemoved raw, (Line.split log).countP isRemoved⟩

/-- The copy on its way to a sink, a line at a time. -/
def delivery (log : Bytes) : Delivery := ⟨lines log, []⟩

/-- The numbers of lines kept and removed, or the failure, from the outcome of a delivery. -/
def result (log : Bytes) (outcome : Delivery.Outcome) : Except IoError Stats :=
  match outcome.failure with
  | none => .ok (stats log)
  | some (_, e) => .error e

end MismatchLog.Filtered
