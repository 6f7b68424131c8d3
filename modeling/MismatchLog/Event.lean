import MismatchLog.Event.Level
import MismatchLog.Filtered

/-!
What a run tells about itself as it goes along. Every event has a level and belongs to a part of
the program, its target.
-/

namespace MismatchLog

inductive Event where
  | ready
  | settingsResolved (path : Text) (found : Bool)
  | settingsWarning (message : Text)
  | starting
  | inputRead (source : Text) (size : Nat)
  /-- A marked line without a pair of literals; only the start of the line is told. -/
  | unpairedLine (start : Text)
  | classified (lines marked unique : Nat)
  | filteredWritten (path : Text) (stats : Filtered.Stats)
  | complete
  | failed (message : Text)
  deriving DecidableEq, Repr

namespace Event

def level : Event → Level
  | .ready => .debug
  | .settingsResolved .. => .debug
  | .settingsWarning _ => .warn
  | .starting => .debug
  | .inputRead .. => .debug
  | .unpairedLine _ => .debug
  | .classified .. => .debug
  | .filteredWritten .. => .info
  | .complete => .info
  | .failed _ => .error

def target : Event → Text
  | .ready => "xregscan::util::logging".toList
  | .settingsResolved .. => "xregscan".toList
  | .settingsWarning _ => "xregscan".toList
  | .starting => "xregscan".toList
  | .inputRead .. => "xregscan::platform::fs".toList
  | .unpairedLine _ => "xregscan::core::classify".toList
  | .classified .. => "xregscan::core::classify".toList
  | .filteredWritten .. => "xregscan::app::run".toList
  | .complete => "xregscan::app::run".toList
  | .failed _ => "xregscan".toList

/-- The names of the values that an event carries; its words are one of them. -/
def fields : Event → List Text
  | .ready => ["message".toList, "app".toList, "version".toList]
  | .settingsResolved .. => ["message".toList, "path".toList, "found".toList]
  | .settingsWarning _ => ["message".toList]
  | .starting => ["message".toList, "options".toList]
  | .inputRead .. => ["message".toList, "source".toList, "bytes".toList]
  | .unpairedLine _ => ["message".toList, "line".toList]
  | .classified .. => ["message".toList, "lines".toList, "matched".toList, "unique".toList]
  | .filteredWritten .. => ["message".toList, "path".toList, "kept".toList, "removed".toList]
  | .complete =>
    ["message".toList, "input".toList, "report".toList, "format".toList, "lines".toList,
      "matched".toList, "unique".toList, "unkeyed".toList]
  | .failed _ => ["message".toList, "error".toList]

/-- The number of characters of a line that are told. -/
def previewLength : Nat := 200

def ofUnpaired (line : Text) : Event := .unpairedLine (Text.preview previewLength line)

def message : Event → Text
  | .ready => "Logging initialised".toList
  | .settingsResolved path found =>
    "Configuration resolved path=".toList ++ path ++
      (if found then " found=true".toList else " found=false".toList)
  | .settingsWarning m => m
  | .starting => "Starting extraction".toList
  | .inputRead source size =>
    "Input read source=".toList ++ source ++ " bytes=".toList ++ Text.decimal size
  | .unpairedLine start =>
    "Marker line without DUT/REF pair; keying by full text line=".toList ++ start
  | .classified lines marked unique =>
    "Classification complete lines=".toList ++ Text.decimal lines ++ " matched=".toList ++
      Text.decimal marked ++ " unique=".toList ++ Text.decimal unique
  | .filteredWritten path stats =>
    "Filtered log written path=".toList ++ path ++ " kept=".toList ++ Text.decimal stats.kept ++
      " removed=".toList ++ Text.decimal stats.removed
  | .complete => "Extraction complete".toList
  | .failed m => "Extraction failed error=".toList ++ m

end Event
end MismatchLog
