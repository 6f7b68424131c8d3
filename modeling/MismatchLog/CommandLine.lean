import MismatchLog.Run
import MismatchLog.Settings

/-!
The command line. Arguments are taken from left to right; the first fault, or the first wish for
the version or the help, ends the reading.
-/

namespace MismatchLog.CommandLine

inductive Flag where
  | counts
  | noCounts
  | debug
  | version
  | help
  deriving DecidableEq, Repr

/-- An option that takes a value. -/
inductive Valued where
  | output
  | filtered
  | format
  | config
  deriving DecidableEq, Repr

inductive Switch where
  | flag (f : Flag)
  | valued (v : Valued)
  deriving DecidableEq, Repr

/-- The long names. They cannot be shortened. -/
def longNames : List (Text × Switch) :=
  [("counts".toList, .flag .counts), ("no-counts".toList, .flag .noCounts),
    ("debug".toList, .flag .debug), ("version".toList, .flag .version),
    ("help".toList, .flag .help), ("output".toList, .valued .output),
    ("filtered".toList, .valued .filtered), ("format".toList, .valued .format),
    ("config".toList, .valued .config)]

def shortNames : List (Char × Switch) :=
  [('c', .flag .counts), ('d', .flag .debug), ('V', .flag .version), ('h', .flag .help),
    ('o', .valued .output), ('F', .valued .filtered), ('f', .valued .format)]

/-- What was read so far. -/
structure Options where
  log : Option Text
  output : Option Text
  filtered : Option Text
  format : Option Format
  config : Option Text
  /-- The last choice between counts and none. -/
  counts : Option Bool
  debug : Bool
  deriving DecidableEq, Repr

def Options.empty : Options := ⟨none, none, none, none, none, none, false⟩

inductive UsageError where
  | unknownOption (arg : Text)
  | extraArgument (arg : Text)
  | missingValue (s : Switch)
  | emptyValue
  | unwantedValue (arg : Text)
  | repeated (s : Switch)
  | unknownFormat (name : Text)
  | missingLog
  deriving DecidableEq, Repr

/-- The long name of an option, with its dashes. -/
def Switch.name (s : Switch) : Text :=
  match longNames.find? fun n => n.2 = s with
  | some (name, _) => "--".toList ++ name
  | none => []

/-- Says in short what is wrong. It stands for the text that users are shown, which is put in other
words and has hints and the usage after them. -/
def UsageError.message : UsageError → Text
  | .unknownOption arg => "unexpected argument '".toList ++ arg ++ "' found".toList
  | .extraArgument arg => "unexpected argument '".toList ++ arg ++ "' found".toList
  | .missingValue s => "a value is required for '".toList ++ s.name ++ "'".toList
  | .emptyValue => "a value is empty where a path is required".toList
  | .unwantedValue arg => "a value was given where none is taken: '".toList ++ arg ++ "'".toList
  | .repeated s => "'".toList ++ s.name ++ "' cannot be used multiple times".toList
  | .unknownFormat name => "invalid value '".toList ++ name ++ "' for '--format'".toList
  | .missingLog => "no log file was named".toList

/-- Why the reading ended early. -/
inductive Stop where
  | usage (e : UsageError)
  | version
  | help
  deriving DecidableEq, Repr

/-- Switches counts on or off. The last choice holds; the same choice twice in a row is a fault. -/
def setCounts (o : Options) (f : Flag) (choice : Bool) : Except Stop Options :=
  if o.counts = some choice then .error (.usage (.repeated (.flag f)))
  else .ok { o with counts := some choice }

def setFlag (o : Options) : Flag → Except Stop Options
  | .counts => setCounts o .counts true
  | .noCounts => setCounts o .noCounts false
  | .debug =>
    if o.debug then .error (.usage (.repeated (.flag .debug))) else .ok { o with debug := true }
  | .version => .error .version
  | .help => .error .help

/-- The value of an option that names a file. -/
def path (v : Valued) (old : Option Text) (value : Text) : Except Stop (Option Text) :=
  if old.isSome then .error (.usage (.repeated (.valued v)))
  else if value = [] then .error (.usage .emptyValue)
  else .ok (some value)

/-- The names of formats on the command line are their labels, letter for letter. -/
def format? (value : Text) : Option Format :=
  [Format.text, .json, .csv].find? fun f => f.label = value

def setValue (o : Options) (v : Valued) (value : Text) : Except Stop Options :=
  match v with
  | .output => do return { o with output := ← path v o.output value }
  | .filtered => do return { o with filtered := ← path v o.filtered value }
  | .config => do return { o with config := ← path v o.config value }
  | .format =>
    if o.format.isSome then .error (.usage (.repeated (.valued v)))
    else match format? value with
      | some f => .ok { o with format := some f }
      | none => .error (.usage (.unknownFormat value))

def setLog (o : Options) (arg : Text) : Except Stop Options :=
  if o.log.isSome then .error (.usage (.extraArgument arg))
  else if arg = [] then .error (.usage .emptyValue)
  else .ok { o with log := some arg }

/-- An argument that begins with a dash is no value, unless it is a dash and nothing else. -/
def isValue (arg : Text) : Bool := arg = ['-'] || arg.head? ≠ some '-'

/-- Letters behind one dash. A letter whose option takes a value takes the rest, from which an
equals sign in front is dropped; answers the option whose value is to follow. -/
def letters (arg : Text) (o : Options) : Text → Except Stop (Options × Option Valued)
  | [] => .ok (o, none)
  | c :: rest =>
    match shortNames.lookup c with
    | none => .error (.usage (.unknownOption arg))
    | some (.flag f) => do
      let o ← setFlag o f
      letters arg o rest
    | some (.valued v) =>
      match rest with
      | [] => .ok (o, some v)
      | '=' :: value => do return (← setValue o v value, none)
      | value => do return (← setValue o v value, none)

/-- A word behind two dashes, with its value after an equals sign; answers the option whose value
is to follow. -/
def word (arg : Text) (o : Options) (body : Text) : Except Stop (Options × Option Valued) :=
  match longNames.lookup (body.takeWhile (· ≠ '=')), body.dropWhile (· ≠ '=') with
  | none, _ => .error (.usage (.unknownOption arg))
  | some (.flag f), [] => do return (← setFlag o f, none)
  | some (.flag _), _ :: _ => .error (.usage (.unwantedValue arg))
  | some (.valued v), [] => .ok (o, some v)
  | some (.valued v), _ :: value => do return (← setValue o v value, none)

/-- An argument by its dashes. -/
def argument (o : Options) (arg : Text) : Except Stop (Options × Option Valued) :=
  match arg with
  | '-' :: '-' :: body => word arg o body
  | '-' :: c :: rest => letters arg o (c :: rest)
  | _ => do return (← setLog o arg, none)

/-- Reads all arguments. After a lone pair of dashes no argument is an option. -/
def readFrom (o : Options) : List Text → Except Stop Options
  | [] => .ok o
  | arg :: rest =>
    if arg = ['-', '-'] then rest.foldlM setLog o
    else
      match argument o arg with
      | .error e => .error e
      | .ok (o, none) => readFrom o rest
      | .ok (o, some v) =>
        match rest with
        | [] => .error (.usage (.missingValue (.valued v)))
        | value :: rest =>
          if isValue value then
            match setValue o v value with
            | .error e => .error e
            | .ok o => readFrom o rest
          else .error (.usage (.missingValue (.valued v)))

/-- A log to scan, and how. -/
structure Request where
  log : Text
  options : Options
  deriving DecidableEq, Repr

def read (args : List Text) : Except Stop Request := do
  let o ← readFrom .empty args
  match o.log with
  | some log => return ⟨log, o⟩
  | none => throw (.usage .missingLog)

/-- The job of a request. What the command line leaves open is taken from the settings. -/
def Request.job (r : Request) (settings : Settings) : Job where
  input := .ofArgument r.log
  report := .ofArgument? r.options.output
  counts := r.options.counts.getD settings.counts
  format := r.options.format.getD settings.format
  filtered := r.options.filtered

end MismatchLog.CommandLine
