import MismatchLog.Line
import MismatchLog.Tally

/-!
Scanning a log: every line is counted, every marked line is recorded under its key.
-/

namespace MismatchLog.Scan

/-- Records a line without its terminator under its key, marked or not. -/
def recordLine (t : Tally) (raw : Text) : Tally :=
  t.record (Key.ofLine (Line.chomp raw)) (Line.chomp raw)

/-- Counts a line, and records it if it is marked. -/
def scanLine (t : Tally) (raw : Text) : Tally :=
  let t := { t with linesScanned := t.linesScanned + 1 }
  if Line.isMarked (Line.chomp raw) then recordLine t raw else t

/-- The tally of lines that are given as texts; a line feed inside one is part of it. -/
def ofTexts (lines : List Text) : Tally := lines.foldl scanLine .empty

/-- The tally of a log. -/
def ofLog (log : Bytes) : Tally := ofTexts (Line.texts log)

/-- The marked lines that have no pair of literals, each as often as it occurs. -/
def unpaired (lines : List Text) : List Text :=
  (lines.map Line.chomp).filter fun line => Line.isMarked line && !(Key.ofLine line).isHexPair

end MismatchLog.Scan
