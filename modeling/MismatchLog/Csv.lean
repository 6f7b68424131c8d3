import MismatchLog.Text.Utf8

/-!
Comma-separated records. A field is quoted only where it has to be, a quote inside it is written
twice, and a line feed ends every record. The written form comes in units, because a doubled quote
is never torn when a document is cut into blocks.
-/

namespace MismatchLog.Csv

/-- A field that holds a separator, a quote or a line's end has to be quoted. -/
def needsQuotes (field : Text) : Bool :=
  field.any fun c => c = ',' || c = '"' || c = '\r' || c = '\n'

/-- A character of a quoted field. -/
def quotedUnit (c : Char) : Text := if c = '"' then ['"', '"'] else [c]

def fieldUnits (field : Text) : List Text :=
  if needsQuotes field then ['"'] :: field.map quotedUnit ++ [['"']]
  else field.map fun c => [c]

def recordUnits : List Text → List Text
  | [] => [['\n']]
  | [field] => fieldUnits field ++ [['\n']]
  | field :: rest => fieldUnits field ++ [','] :: recordUnits rest

def record (fields : List Text) : Text := (recordUnits fields).flatten

def document (records : List (List Text)) : Text := records.flatMap record

/-- The bytes of a unit, in pieces that may be parted. -/
def pieces (unit : Text) : List Bytes :=
  if unit = ['"', '"'] then [Utf8.encode unit] else (Utf8.encode unit).map fun b => [b]

end MismatchLog.Csv
