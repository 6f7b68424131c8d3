import MismatchLog.Decimal.Shortest
import MismatchLog.Event.Level
import MismatchLog.Report.Format
import MismatchLog.Text.Lowercase
import MismatchLog.Text.Shown
import MismatchLog.Toml.Document

/-!
Settings, as a TOML document gives them. A text that is no document, or in which a field has the
wrong type, changes nothing and gives one warning. In a document that is read, each field counts
for itself: one with an unknown name keeps its default and gives a warning.
-/

namespace MismatchLog

structure Settings where
  counts : Bool
  format : Format
  level : Option Level
  deriving DecidableEq, Repr

namespace Settings

def default : Settings := ⟨false, .text, none⟩

/-- What the type of a value should have been. -/
inductive Expected where
  | boolean
  | string
  | reportSection
  | loggingSection
  deriving DecidableEq, Repr

def Expected.describe : Expected → Text
  | .boolean => "a boolean".toList
  | .string => "a string".toList
  | .reportSection => "struct ReportSection".toList
  | .loggingSection => "struct LoggingSection".toList

/-- A value as a complaint about its type names it. -/
def describe : Toml.Value → Text
  | .boolean b => "boolean `".toList ++ (if b then "true".toList else "false".toList) ++ ['`']
  | .integer n => "integer `".toList ++ Text.signedDecimal n ++ ['`']
  | .float x => "floating point `".toList ++ x.text ++ ['`']
  | .string t => "string ".toList ++ Text.shown t
  | .moment => "map".toList
  | .array _ => "sequence".toList
  | .table .. => "map".toList
  | .tables _ => "sequence".toList

/-- A value of the wrong type. -/
structure IllTyped where
  found : Text
  expected : Expected
  deriving DecidableEq, Repr

inductive Warning where
  /-- The text is no document. -/
  | malformed
  | illTyped (e : IllTyped)
  | unknownFormat (name : Text)
  | unknownLevel (name : Text)
  deriving DecidableEq, Repr

namespace Warning

def notRead (why : Text) : Text :=
  "failed to parse config: ".toList ++ why ++ ". Using defaults.".toList

/-- The words of a warning. Those about a text that is no document and about a value of the wrong
type stand for a parser's own words, which also quote the line and the column of the fault. -/
def message : Warning → Text
  | .malformed => notRead "syntax".toList
  | .illTyped e =>
    notRead ("invalid type: ".toList ++ e.found ++ ", expected ".toList ++ e.expected.describe)
  | .unknownFormat name =>
    "[report] format = \"".toList ++ name ++
      "\" is not recognised. Expected \"text\", \"json\" or \"csv\". Using default (text).".toList
  | .unknownLevel name =>
    "[logging] level = \"".toList ++ name ++
      "\" is not recognised. Valid values: error, warn, info, debug, trace. ".toList ++
      "Using default (warn).".toList

end Warning

/-- The fields of the report section. -/
structure ReportFields where
  counts : Option Bool
  format : Option Text
  deriving DecidableEq, Repr

/-- The field of the logging section. -/
structure LoggingFields where
  level : Option Text
  deriving DecidableEq, Repr

/-- What a document says, before its names are looked up. -/
structure Fields where
  report : ReportFields
  logging : LoggingFields
  deriving DecidableEq, Repr

def Fields.none : Fields := ⟨⟨.none, .none⟩, ⟨.none⟩⟩

def boolean : Toml.Value → Except IllTyped Bool
  | .boolean b => .ok b
  | v => .error ⟨describe v, .boolean⟩

def string : Toml.Value → Except IllTyped Text
  | .string t => .ok t
  | v => .error ⟨describe v, .string⟩

/-- A section is read by the names of its members, or by position from an array. A moment has no
members that a section knows. -/
inductive Shape where
  | members (t : Toml.Table)
  | items (vs : List Toml.Value)

def shape (expected : Expected) : Toml.Value → Except IllTyped Shape
  | .table _ members => .ok (.members members)
  | .moment => .ok (.members [])
  | .array items => .ok (.items items)
  | .tables elements => .ok (.items (elements.map (.table .header)))
  | v => .error ⟨describe v, expected⟩

/-- One member of the report section; other names are ignored. -/
def ReportFields.add (f : ReportFields) (m : Text × Toml.Value) : Except IllTyped ReportFields :=
  if m.1 = "counts".toList then do return { f with counts := some (← boolean m.2) }
  else if m.1 = "format".toList then do return { f with format := some (← string m.2) }
  else .ok f

def ReportFields.ofValue (v : Toml.Value) : Except IllTyped ReportFields := do
  match ← shape .reportSection v with
  | .members t => t.foldlM ReportFields.add ⟨none, none⟩
  | .items vs =>
    let counts ← vs[0]?.mapM boolean
    let format ← vs[1]?.mapM string
    return ⟨counts, format⟩

def LoggingFields.add (f : LoggingFields) (m : Text × Toml.Value) : Except IllTyped LoggingFields :=
  if m.1 = "level".toList then do return ⟨some (← string m.2)⟩ else .ok f

def LoggingFields.ofValue (v : Toml.Value) : Except IllTyped LoggingFields := do
  match ← shape .loggingSection v with
  | .members t => t.foldlM LoggingFields.add ⟨none⟩
  | .items vs => return ⟨← vs[0]?.mapM string⟩

/-- One member of the document; other names are ignored. -/
def Fields.add (f : Fields) (m : Text × Toml.Value) : Except IllTyped Fields :=
  if m.1 = "report".toList then do return { f with report := ← ReportFields.ofValue m.2 }
  else if m.1 = "logging".toList then do return { f with logging := ← LoggingFields.ofValue m.2 }
  else .ok f

/-- The members are read in the order of the document, up to the first with a wrong type. -/
def Fields.ofTable (t : Toml.Table) : Except IllTyped Fields := t.foldlM Fields.add .none

/-- Reads the name of a level in any letter case. The lower-casing is that of all alphabets. -/
def levelOfName? (name : Text) : Option Level :=
  Level.all.find? fun l => l.name = Text.lowercase name

/-- Looks up the names. -/
def ofFields (f : Fields) : Settings × List Warning :=
  let format := f.report.format.bind Format.ofName?
  let level := f.logging.level.bind levelOfName?
  (⟨f.report.counts.getD false, format.getD .text, level⟩,
    (f.report.format.filter fun _ => format = none).toList.map .unknownFormat ++
      (f.logging.level.filter fun _ => level = none).toList.map .unknownLevel)

/-- The settings in a text, and the warnings about it. -/
def ofText (t : Text) : Settings × List Warning :=
  match Toml.read? t with
  | none => (default, [.malformed])
  | some table =>
    match Fields.ofTable table with
    | .error e => (default, [.illTyped e])
    | .ok fields => ofFields fields

end Settings
end MismatchLog
