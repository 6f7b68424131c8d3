import MismatchLog.Session

/-!
The program. It takes the files that the arguments name into a tree, lets a session run on it, and
puts the files that the session changed back in their places.
-/

namespace MismatchLog.Main

/-- A failure of the machine as a cause. -/
def cause : IO.Error → IoError
  | .noFileOrDirectory _ code _ => .os code.toNat
  | .permissionDenied _ code _ => .os code.toNat
  | .inappropriateType _ code _ => .os code.toNat
  | .invalidArgument _ code _ => .os code.toNat
  | .resourceExhausted _ code _ => .os code.toNat
  | .otherError code _ => .os code.toNat
  | .hardwareFault code _ => .os code.toNat
  | .resourceVanished code _ => .os code.toNat
  | e => .other e.toString.toList

/-- A place as the machine spells it. -/
def spell (p : Place) : String := "/" ++ String.intercalate "/" (p.map String.ofList)

/-- Runs an action and answers its result or the cause of its failure. -/
def attempt (act : IO α) : IO (Except IoError α) := do
  try return .ok (← act) catch e => return .error (cause e)

/-- Whether a file can be opened for writing, and if not, why. It is not changed. -/
def refusal (path : String) : IO (Option IoError) := do
  match ← attempt (discard (IO.FS.Handle.mk path .readWrite)) with
  | .ok _ => return none
  | .error e => return some e

/-- The node at a place of the machine. Only a regular file that can be read and written becomes a
file of the tree; a node of another kind is read only if it has to be. -/
def node? (p : Place) (isInput : Bool) : IO (Option Node) := do
  let path := (← IO.currentDir) / spell p
  if ← path.isDir then return some .directory
  match ← attempt path.metadata with
  | .error _ => return none
  | .ok info =>
    let refuses ← refusal (spell p)
    let regular := info.type == .file
    let content ←
      if regular || isInput then attempt (IO.FS.readBinFile path) else pure (.ok .empty)
    let content := content.map fun c => c.toList
    match regular, content, refuses with
    | true, .ok c, none => return some (.file c)
    | _, _, _ => return some (.special ⟨content, refuses⟩)

/-- Takes the nodes on a path into the tree, name by name. -/
def take (t : FileTree) (path : Text) (isInput : Bool) : IO FileTree := do
  let names := (Path.segments path).filter fun s => s ≠ [] ∧ s ≠ ['.']
  let mut place := if Path.isAbsolute path then [] else t.here
  let mut t := t
  for name in names do
    if name = ['.', '.'] then place := place.dropLast
    else
      place := place ++ [name]
      if let some n ← node? place isInput then t := t.plant place n
  return t

/-- The paths that a request is about, and whether they are read. -/
def paths (env : Session.Environment) (r : CommandLine.Request) : List (Text × Bool) :=
  let outputs := r.options.output.toList ++ r.options.filtered.toList
  ((Session.settingsPath env r).1, true) :: (r.log, true) :: outputs.map fun p => (p, false)

/-- Puts the files that were changed back in their places. -/
def store (before after : FileTree) : IO Unit := do
  for (place, n) in after.nodes do
    if let .file content := n then
      let same := match before.at? place with
        | some (.file old) => old == content
        | _ => false
      unless same do IO.FS.writeBinFile (spell place) ⟨content.toArray⟩

/-- Writes bytes to the standard output. -/
def emit (bytes : Bytes) : IO Unit := do
  unless bytes.isEmpty do
    let out ← IO.getStdout
    out.write ⟨bytes.toArray⟩
    out.flush

def sayLine (t : Text) : IO Unit := IO.eprintln (String.ofList t)

def tell (e : Event) : IO Unit :=
  sayLine (e.level.name.map Char.toUpper ++ [' '] ++ e.target ++ [':', ' '] ++ e.message)

/-- The value of a variable of the environment. -/
def environment (name : String) : IO (Option Text) := do
  return (← IO.getEnv name).map String.toList

/-- Lets the session run. A standard output that fails is a sink without room, with which the
session runs once more. Files are stored when the session is over, so for the session they take
everything. The system's list of users is not looked up: without `HOME` there is no home
directory here. -/
def perform (args : List Text) : IO UInt32 := do
  let home ← environment "HOME"
  let configHome ← environment "XDG_CONFIG_HOME"
  let env : Session.Environment := ⟨⟨home, none, configHome⟩, ← environment "RUST_LOG"⟩
  let here := (Path.segments (← IO.currentDir).toString.toList).filter (· ≠ [])
  let mut tree : FileTree := (FileTree.mk [] here).plant here .directory
  let mut stdin : Except IoError Bytes := .ok []
  if let .ok request := CommandLine.read args then
    for (path, isInput) in paths env request do tree ← take tree path isInput
    if Source.ofArgument request.log = .stdin then
      stdin := (← attempt (do (← IO.getStdin).readBinToEnd)).map fun c => c.toList
  let session (stdout : Sink) :=
    Session.run env ⟨tree, stdin, ⟨stdout, fun _ => .unbounded⟩⟩ args
  let hoped := session .unbounded
  let result ← match ← attempt (emit hoped.stdout) with
    | .ok _ => pure hoped
    | .error e => pure (session ⟨some 0, e, none⟩)
  result.log.forM tell
  store tree result.tree
  result.advice.forM sayLine
  result.complaint.forM sayLine
  return result.exitCode.toUInt32

end MismatchLog.Main

def main (args : List String) : IO UInt32 := do
  try MismatchLog.Main.perform (args.map String.toList)
  catch e =>
    IO.eprintln e.toString
    return 1
