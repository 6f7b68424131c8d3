import MismatchLog.CommandLine
import MismatchLog.Event.Filter
import MismatchLog.Settings.Location

/-!
A session: from arguments and surroundings to an exit code, what is written to the standard
streams, and the files afterwards.
-/

namespace MismatchLog.Session

/-- What a session is given by its surroundings. -/
structure Environment where
  directories : Settings.Directories
  /-- The filter for events, if the user set one. -/
  logFilter : Option Text
  deriving DecidableEq, Repr

structure Result where
  exitCode : Nat
  stdout : Bytes
  /-- What is said about a fault in the arguments. -/
  advice : Option Text
  /-- The error that ended the run, in words. -/
  complaint : Option Text
  tree : FileTree
  /-- The events that were told. -/
  log : List Event

/-- The user's filter comes first, then the wish for debugging, then the settings. -/
def filter? (env : Environment) (debug : Bool) (settings : Settings) : Option Event.Filter :=
  match env.logFilter, debug, settings.level with
  | some text, _, _ => Event.Filter.ofText? text
  | none, true, _ => some (Event.Filter.atLevel .debug)
  | none, false, some l => some (Event.Filter.atLevel l)
  | none, false, none => some (Event.Filter.atLevel .warn)

/-- The settings file of a scan, and a warning if there was no place to look for it. -/
def settingsPath (env : Environment) (request : CommandLine.Request) : Text × Option Text :=
  match request.options.config with
  | some path => (path, none)
  | none => Settings.defaultPath env.directories

/-- The events before the run. -/
def preamble (t : FileTree) (path : Text) (warnings : List Text) : List Event :=
  [.ready, .settingsResolved path (t.holds path)] ++ warnings.map .settingsWarning ++ [.starting]

/-- What comes of a run when a filter says which events are told. -/
def report (t : FileTree) (path : Text) (warnings : List Text) (filter : Event.Filter)
    (r : Run.Result) : Result :=
  let ending :=
    match r.outcome with
    | .ok _ => (0, none, [])
    | .error e =>
      (e.exitCode, some ("Error: ".toList ++ e.message), [Event.failed e.message])
  let events := preamble t path warnings ++ r.events ++ ending.2.2
  ⟨ending.1, r.stdout, none, ending.2.1, r.tree, events.filter filter.admits⟩

/-- The exit code of a session that breaks off, in a build that unwinds its stack. A build that
aborts ends on a signal instead. -/
def brokenCode : Nat := 101

/-- A session that breaks off before its run. -/
def broken (w : World) : Result := ⟨brokenCode, [], none, none, w.tree, []⟩

/-- A session that scans a log. It breaks off if there is no filter. -/
def scan (env : Environment) (w : World) (request : CommandLine.Request) : Result :=
  let (path, unplaced) := settingsPath env request
  let (settings, notices) := Settings.load w.tree path
  let warnings := unplaced.toList ++ notices.map Settings.Notice.message
  match filter? env request.options.debug settings with
  | none => broken w
  | some filter => report w.tree path warnings filter (Run.run w (request.job settings))

/-- The version, on a line. -/
def version : Text := "xregscan 1.0.0\n".toList

/-- A session that prints a text and ends. -/
def printed (w : World) (t : Text) : Result :=
  ⟨0, (Sink.offer w.stdout.room [Utf8.encode t]).taken, none, none, w.tree, []⟩

/-- Stands for the help, which has a description and the options besides this line. -/
def usage : Text := "Usage: xregscan [OPTIONS] <LOGFILE>\n".toList

/-- The whole session. A fault in the arguments ends it before anything is touched. -/
def run (env : Environment) (w : World) (args : List Text) : Result :=
  match CommandLine.read args with
  | .ok request => scan env w request
  | .error .version => printed w version
  | .error .help => printed w usage
  | .error (.usage e) => ⟨2, [], some ("error: ".toList ++ e.message), none, w.tree, []⟩

end MismatchLog.Session
