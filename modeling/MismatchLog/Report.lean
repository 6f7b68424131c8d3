import MismatchLog.Csv
import MismatchLog.Json
import MismatchLog.Report.Format
import MismatchLog.Sink
import MismatchLog.Tally

/-!
Reports of a tally: one line, one object or one record for each entry, in the tally's order.
`render` is the whole report as a text; `delivery` is the same report in the pieces in which it
reaches a sink, and decides to which stage of the writing a failure belongs.
-/

namespace MismatchLog

/-- An object that names the kind of key first. -/
def Key.toJson : Key → Json
  | .hexPair dut ref =>
    .object [("kind".toList, .string "hex_pair".toList), ("dut".toList, .string dut),
      ("ref".toList, .string ref)]
  | .rawLine text =>
    .object [("kind".toList, .string "raw_line".toList), ("text".toList, .string text)]

namespace Entry

def toJson (e : Entry) : Json :=
  .object [("count".toList, .number e.count), ("line".toList, .string e.line),
    ("key".toList, e.key.toJson)]

/-- The fields of a record. Without a pair of literals their fields are empty. -/
def toRecord (e : Entry) : List Text :=
  match e.key with
  | .hexPair dut ref => [Text.decimal e.count, dut, ref, e.line]
  | .rawLine _ => [Text.decimal e.count, [], [], e.line]

/-- A line, with the count in front of it if counts are asked for. -/
def toLine (counts : Bool) (e : Entry) : Text :=
  if counts then '[' :: Text.decimal e.count ++ [']', ' '] ++ e.line ++ ['\n']
  else e.line ++ ['\n']

end Entry

namespace Report

def header : List Text := ["count".toList, "dut".toList, "ref".toList, "line".toList]

def records (t : Tally) : List (List Text) := header :: t.entries.toList.map Entry.toRecord

def textBody (counts : Bool) (t : Tally) : Text := t.entries.toList.flatMap (Entry.toLine counts)

/-- The array of entries, without the line feed that ends the report. -/
def jsonBody (t : Tally) : Text :=
  Json.write .indented 0 (.array (t.entries.toList.map Entry.toJson))

def csvUnits (t : Tally) : List Text := (records t).flatMap Csv.recordUnits

def render (format : Format) (counts : Bool) (t : Tally) : Text :=
  match format with
  | .text => textBody counts t
  | .json => jsonBody t ++ ['\n']
  | .csv => Csv.document (records t)

/-- Every byte as a piece of its own. -/
def bytewise (t : Text) : List Bytes := (Utf8.encode t).map fun b => [b]

/-- The report on its way to a sink. The records go through a buffer of their own, which hands over
its last block at the end; the line feed after an array belongs to the end too. -/
def delivery (format : Format) (counts : Bool) (t : Tally) : Delivery :=
  match format with
  | .text => ⟨bytewise (textBody counts t), []⟩
  | .json => ⟨bytewise (jsonBody t), bytewise ['\n']⟩
  | .csv => Delivery.buffered Buffer.capacity ⟨(csvUnits t).flatMap Csv.pieces, []⟩

/-- Only the writers of structured output give their name to a failure, and only while at work. -/
def failureKind : Format → Delivery.Stage → ReportError.Kind
  | .json, .body => .json
  | .csv, .body => .csv
  | _, _ => .io

/-- The number of entries written, or the failure, from the outcome of a delivery. -/
def result (format : Format) (path : Text) (t : Tally) (outcome : Delivery.Outcome) :
    Except ReportError Nat :=
  match outcome.failure with
  | none => .ok t.size
  | some (stage, e) => .error ⟨failureKind format stage, path, e⟩

end Report
end MismatchLog
