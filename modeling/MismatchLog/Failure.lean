import MismatchLog.Text

/-!
What can go wrong, as causes. Every cause has one message, one exit code, and a chain of the causes
beneath it.
-/

namespace MismatchLog

/-- The failure of an operation on a file or a stream. -/
inductive IoError where
  /-- A number of the operating system. -/
  | os (code : Nat)
  | other (text : Text)
  deriving DecidableEq, Repr

namespace IoError

def notFound : IoError := .os 2
def outOfMemory : IoError := .os 12
def notDirectory : IoError := .os 20
def isDirectory : IoError := .os 21
def invalidArgument : IoError := .os 22
def noSpace : IoError := .os 28
def nameTooLong : IoError := .os 36

/-- The system's own words for an error number. -/
def describe : Nat → Text
  | 1 => "Operation not permitted".toList
  | 2 => "No such file or directory".toList
  | 5 => "Input/output error".toList
  | 12 => "Cannot allocate memory".toList
  | 13 => "Permission denied".toList
  | 17 => "File exists".toList
  | 20 => "Not a directory".toList
  | 21 => "Is a directory".toList
  | 22 => "Invalid argument".toList
  | 24 => "Too many open files".toList
  | 27 => "File too large".toList
  | 28 => "No space left on device".toList
  | 30 => "Read-only file system".toList
  | 32 => "Broken pipe".toList
  | 36 => "File name too long".toList
  | 40 => "Too many levels of symbolic links".toList
  | n => "Unknown error ".toList ++ Text.decimal n

def message : IoError → Text
  | .os code => describe code ++ " (os error ".toList ++ Text.decimal code ++ [')']
  | .other text => text

end IoError

/-- Where the writing of a report failed: in the stream itself, or while a writer of structured
output was still at work. -/
inductive ReportError.Kind where
  | io
  | csv
  | json
  deriving DecidableEq, Repr

structure ReportError where
  kind : ReportError.Kind
  path : Text
  source : IoError
  deriving DecidableEq, Repr

/-- A subject, a quoted path and a cause. -/
def about (subject path : Text) (source : IoError) : Text :=
  subject ++ [' ', '\''] ++ path ++ ['\'', ':', ' '] ++ source.message

namespace ReportError

def message (e : ReportError) : Text :=
  match e.kind with
  | .io => about "Report I/O error".toList e.path e.source
  | .csv => about "CSV report error".toList e.path e.source
  | .json => about "JSON report error".toList e.path e.source

end ReportError

/-- What is done to a destination after it was opened. -/
structure Operation where
  name : Text
  deriving DecidableEq, Repr

namespace Operation

def truncateReport : Operation := ⟨"truncate report".toList⟩
def truncateFiltered : Operation := ⟨"truncate filtered log".toList⟩
def writeFiltered : Operation := ⟨"write filtered log".toList⟩

end Operation

/-- Why a run failed, by the resource that failed it. -/
inductive RunError where
  | inputOpen (path : Text) (source : IoError)
  | reportOpen (path : Text) (source : IoError)
  | filterOpen (path : Text) (source : IoError)
  | report (error : ReportError)
  | io (operation : Operation) (path : Text) (source : IoError)
  deriving DecidableEq, Repr

namespace RunError

def message : RunError → Text
  | .inputOpen path source => about "Cannot open input log".toList path source
  | .reportOpen path source => about "Cannot open report output".toList path source
  | .filterOpen path source => about "Cannot open filtered log output".toList path source
  | .report e => "Report error: ".toList ++ e.message
  | .io operation path source =>
    about ("I/O error during ".toList ++ operation.name ++ " on".toList) path source

/-- Each resource that cannot be opened has a code of its own; a failed write has the code 1. -/
def exitCode : RunError → Nat
  | .inputOpen .. => 2
  | .reportOpen .. => 3
  | .filterOpen .. => 4
  | .report _ => 1
  | .io .. => 1

/-- The messages of the causes beneath, outermost first. -/
def sources : RunError → List Text
  | .inputOpen _ source => [source.message]
  | .reportOpen _ source => [source.message]
  | .filterOpen _ source => [source.message]
  | .report e => [e.message, e.source.message]
  | .io _ _ source => [source.message]

end RunError
end MismatchLog
