import MismatchLog.Event
import MismatchLog.FileTree
import MismatchLog.Report
import MismatchLog.Scan
import MismatchLog.Stream

/-!
One run: reads a log, and writes a report of its mismatches and, if asked, a filtered copy. The log
is read as a whole and every destination is opened before any of them is truncated, so a run that
cannot get all it needs leaves what is there alone.
-/

namespace MismatchLog

/-- What a run is asked to do. -/
structure Job where
  input : Source
  report : Destination
  counts : Bool
  format : Format
  /-- Where the filtered copy goes, if one is wanted. -/
  filtered : Option Text
  deriving DecidableEq, Repr

/-- The filtered copy always goes to a file, even if its name is a dash. -/
def Job.filteredTo (job : Job) : Option Destination := job.filtered.map .file

/-- The sinks behind what a run writes to. -/
structure Sinks where
  stdout : Sink
  /-- The sink behind the file of a place. What the file held before takes no room from it. -/
  file : Place → Sink

namespace Sinks

/-- All of them take everything. -/
def unbounded : Sinks := ⟨.unbounded, fun _ => .unbounded⟩

/-- The standard output has no room. Files take everything. -/
def full : Sinks := ⟨.full, fun _ => .unbounded⟩

end Sinks

/-- What a run finds: the files, what a reading of the standard input comes to, and the sinks. -/
structure World where
  tree : FileTree
  stdin : Except IoError Bytes
  sinks : Sinks

/-- Bytes on the standard input are a reading that goes through. -/
instance : Coe Bytes (Except IoError Bytes) := ⟨.ok⟩

namespace World

def stdout (w : World) : Sink := w.sinks.stdout

/-- The sink behind the file of a place. -/
def file (w : World) (p : Place) : Sink := w.sinks.file p

end World

structure Summary where
  linesScanned : Nat
  markerLines : Nat
  uniqueEntries : Nat
  rawLineEntries : Nat
  filter : Option Filtered.Stats
  deriving DecidableEq, Repr

namespace Run

/-- An open destination. -/
inductive Output where
  | stdout
  | file (path : Text) (p : Place)
  deriving DecidableEq, Repr

structure Result where
  outcome : Except RunError Summary
  tree : FileTree
  stdout : Bytes
  events : List Event

def readInput (w : World) : Source → Except IoError Bytes
  | .stdin => w.stdin
  | .file path => w.tree.read path

namespace Output

/-- Opens a destination and keeps what it holds. -/
def ofDestination (t : FileTree) : Destination → Except IoError (Output × FileTree)
  | .stdout => .ok (.stdout, t)
  | .file path => do
    let (p, t) ← t.openForWriting path
    return (.file path p, t)

def ofDestination? (t : FileTree) : Option Destination → Except IoError (Option Output × FileTree)
  | none => .ok (none, t)
  | some d => do
    let (o, t) ← ofDestination t d
    return (some o, t)

/-- The name in messages. -/
def display : Output → Text
  | .stdout => Destination.stdout.display
  | .file path _ => path

/-- Discards what an output holds. A standard stream holds nothing. -/
def truncate (t : FileTree) : Output → Except IoError FileTree
  | .stdout => .ok t
  | .file _ p => t.truncate p

/-- The sink behind an output. -/
def sink (w : World) : Output → Sink
  | .stdout => w.stdout
  | .file _ p => w.file p

/-- Puts the bytes that an output took into the tree. -/
def commit (t : FileTree) (taken : Bytes) : Output → FileTree
  | .stdout => t
  | .file _ p => t.writeOver p taken

/-- The bytes that reached the standard output. -/
def shown (taken : Bytes) : Output → Bytes
  | .stdout => taken
  | .file .. => []

end Output

def summary (t : Tally) (filter : Option Filtered.Stats) : Summary :=
  ⟨t.linesScanned, t.markerLines, t.size, t.rawLineEntries, filter⟩

/-- What is told about the classification of a log. -/
def classification (log : Bytes) (t : Tally) : List Event :=
  (Scan.unpaired (Line.texts log)).map Event.ofUnpaired ++
    [.classified t.linesScanned t.markerLines t.size]

/-- Writes the filtered copy, if one is wanted. -/
def writeFiltered (w : World) (log : Bytes) (t : FileTree) :
    Option Output → Except RunError (Option Filtered.Stats × List Event) × FileTree
  | none => (.ok (none, []), t)
  | some o =>
    let outcome := ((Filtered.delivery log).buffered Buffer.capacity).sendTo (o.sink w)
    let t := o.commit t outcome.taken
    match Filtered.result log outcome with
    | .ok stats => (.ok (some stats, [.filteredWritten o.display stats]), t)
    | .error e => (.error (.io .writeFiltered o.display e), t)

/-- Writes everything to outputs that are open and empty: first the report, then the copy. -/
def write (w : World) (job : Job) (log : Bytes) (t : FileTree) (report : Output)
    (filtered : Option Output) : Result :=
  let tally := Scan.ofLog log
  let delivery := (Report.delivery job.format job.counts tally).buffered Buffer.capacity
  let outcome := delivery.sendTo (report.sink w)
  let t := report.commit t outcome.taken
  let stdout := report.shown outcome.taken
  let events := classification log tally
  match Report.result job.format report.display tally outcome with
  | .error e => ⟨.error (.report e), t, stdout, events⟩
  | .ok _ =>
    match writeFiltered w log t filtered with
    | (.error e, t) => ⟨.error e, t, stdout, events⟩
    | (.ok (stats, written), t) =>
      ⟨.ok (summary tally stats), t, stdout, events ++ written ++ [.complete]⟩

/-- A run that stops before anything is written. -/
def stopped (e : RunError) (t : FileTree) : Result := ⟨.error e, t, [], []⟩

/-- Truncates the outputs, the report's first, and writes to them. -/
def truncateAndWrite (w : World) (job : Job) (log : Bytes) (t : FileTree) (report : Output)
    (filtered : Option Output) : Result :=
  match report.truncate t with
  | .error e => stopped (.io .truncateReport report.display e) t
  | .ok t =>
    match filtered with
    | none => write w job log t report none
    | some o =>
      match o.truncate t with
      | .error e => stopped (.io .truncateFiltered o.display e) t
      | .ok t => write w job log t report (some o)

/-- Opens the destinations, the report's first, and goes on with them. -/
def openAndWrite (w : World) (job : Job) (log : Bytes) : Result :=
  match Output.ofDestination w.tree job.report with
  | .error e => stopped (.reportOpen job.report.display e) w.tree
  | .ok (report, t) =>
    match Output.ofDestination? t job.filteredTo with
    | .error e => stopped (.filterOpen (job.filtered.getD []) e) t
    | .ok (filtered, t) => truncateAndWrite w job log t report filtered

/-- The whole run. -/
def run (w : World) (job : Job) : Result :=
  match readInput w job.input with
  | .error e => stopped (.inputOpen job.input.display e) w.tree
  | .ok log =>
    let r := openAndWrite w job log
    { r with events := .inputRead job.input.display log.length :: r.events }

end Run
end MismatchLog
