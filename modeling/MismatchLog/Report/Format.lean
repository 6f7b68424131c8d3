import MismatchLog.Text

/-!
The formats in which a tally can be reported, and their names.
-/

namespace MismatchLog

inductive Format where
  | text
  | json
  | csv
  deriving DecidableEq, Repr

namespace Format

def label : Format → Text
  | .text => "text".toList
  | .json => "json".toList
  | .csv => "csv".toList

/-- Reads a name in any letter case; `txt` names the text format too. -/
def ofName? (name : Text) : Option Format :=
  let name := Text.lower name
  if name = "text".toList ∨ name = "txt".toList then some .text
  else if name = "json".toList then some .json
  else if name = "csv".toList then some .csv
  else none

end Format
end MismatchLog
