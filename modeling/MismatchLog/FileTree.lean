import MismatchLog.Failure
import MismatchLog.Path
import MismatchLog.Text.Utf8

/-!
A tree of files as a value. Paths are looked up the way a Unix system does it: from the root or the
working directory, through directories only. Opening for writing makes a missing file and leaves
one that is there as it is; discarding and writing are separate steps.
-/

namespace MismatchLog

/-- A node that is no regular file and no directory. It can be read once and for all, may refuse to
be opened for writing, and has no length to truncate. -/
structure Special where
  content : Except IoError Bytes
  refuses : Option IoError

namespace Special

/-- Holds nothing. -/
def null : Special := ⟨.ok [], none⟩

/-- Can be read without end. -/
def full : Special := ⟨.error .outOfMemory, none⟩

end Special

inductive Node where
  | file (content : Bytes)
  | directory
  | special (s : Special)

/-- The names on the way from the root to a node. -/
abbrev Place := List Text

structure FileTree where
  /-- Every node but the root. A place occurs once. -/
  nodes : List (Place × Node)
  /-- The working directory. -/
  here : Place

namespace FileTree

/-- The node at a place. The root is a directory. -/
def at? (t : FileTree) (p : Place) : Option Node :=
  if p = [] then some .directory else t.nodes.lookup p

/-- Changes the node at a place where there is one, and adds it at the end where there is none. -/
def put (t : FileTree) (p : Place) (n : Node) : FileTree :=
  { t with
    nodes :=
      if (t.nodes.lookup p).isSome then t.nodes.map fun m => if m.1 = p then (p, n) else m
      else t.nodes ++ [(p, n)] }

theorem lookup_map_put (nodes : List (Place × Node)) (p q : Place) (n : Node) :
    (nodes.map fun m => if m.1 = p then (p, n) else m).lookup q =
      if q = p then (nodes.lookup p).map fun _ => n else nodes.lookup q := by
  induction nodes with
  | nil => simp
  | cons m rest ih =>
    obtain ⟨r, k⟩ := m
    rw [List.map_cons]
    by_cases hr : r = p
    · subst hr
      by_cases hq : q = r <;> simp_all [List.lookup_cons, beq_eq_false_iff_ne.mpr]
    · have hp : (p == r) = false := beq_eq_false_iff_ne.mpr (Ne.symm hr)
      by_cases hq : q = r
      · subst hq
        simp [hr]
      · have hq' : (q == r) = false := beq_eq_false_iff_ne.mpr hq
        simp only [hr, if_false, List.lookup_cons, hq', hp, ih]

/-- What was put at a place is found there, and all else is found as before. -/
theorem at?_put (t : FileTree) (p q : Place) (n : Node) :
    (t.put p n).at? q = if q = p ∧ p ≠ [] then some n else t.at? q := by
  unfold at? put
  by_cases hq : q = []
  · subst hq
    by_cases hp : p = [] <;> simp [hp, eq_comm]
  · simp only [hq, if_false]
    split
    · rename_i h
      obtain ⟨m, hm⟩ := Option.isSome_iff_exists.mp h
      rw [lookup_map_put]
      by_cases h' : q = p <;> simp_all
    · rename_i h
      simp only [Bool.not_eq_true, Option.isSome_eq_false_iff, Option.isNone_iff_eq_none] at h
      rw [List.lookup_append]
      by_cases h' : q = p
      · subst h'
        simp [h, hq]
      · have h'' : (q == p) = false := beq_eq_false_iff_ne.mpr h'
        simp [List.lookup_cons, h', h'']

/-- Puts a node at a place, and makes the directories above it that are missing. -/
def plant (t : FileTree) (p : Place) (n : Node) : FileTree :=
  let parents := (List.range p.length).map p.take
  let t := parents.foldl (fun t q => if (t.at? q).isSome then t else t.put q .directory) t
  t.put p n

/-- The longest name of a node, in bytes. -/
def nameLimit : Nat := 255

/-- A path has to be shorter than this, in bytes. -/
def pathLimit : Nat := 4096

/-- The node of a name in a directory. -/
def child (t : FileTree) (dir : Place) (name : Text) : Except IoError Node :=
  if nameLimit < (Utf8.encode name).length then .error .nameTooLong
  else match t.at? (dir ++ [name]) with
    | some n => .ok n
    | none => .error .notFound

/-- Where a name leads from a directory, through directories only. -/
def enter (t : FileTree) (dir : Place) (name : Text) : Except IoError Place :=
  if name = ['.'] then .ok dir
  else if name = ['.', '.'] then .ok dir.dropLast
  else do
    match ← t.child dir name with
    | .directory => return dir ++ [name]
    | _ => throw .notDirectory

/-- What a path names, its last name not looked up yet. -/
inductive Target where
  | directory (p : Place)
  /-- A name in a directory; a slash after it asks for a directory. -/
  | entry (dir : Place) (name : Text) (slash : Bool)

/-- Looks up all of a path but its last name. -/
def resolve (t : FileTree) (path : Text) : Except IoError Target := do
  if '\x00' ∈ path then throw (.other "file name contained an unexpected NUL byte".toList)
  if path = [] then throw .notFound
  if pathLimit ≤ (Utf8.encode path).length then throw .nameTooLong
  let names := (Path.segments path).filter (· ≠ [])
  let start := if Path.isAbsolute path then [] else t.here
  match names.getLast? with
  | none => return .directory start
  | some name =>
    let dir ← names.dropLast.foldlM t.enter start
    if name = ['.'] then return .directory dir
    else if name = ['.', '.'] then return .directory dir.dropLast
    else return .entry dir name (path.getLast? = some '/')

/-- The content of the file that a path names. -/
def read (t : FileTree) (path : Text) : Except IoError Bytes := do
  match ← t.resolve path with
  | .directory _ => throw .isDirectory
  | .entry dir name slash =>
    match ← t.child dir name with
    | .directory => throw .isDirectory
    | .file content => if slash then throw .notDirectory else return content
    | .special s => if slash then throw .notDirectory else s.content

/-- A path names something. -/
def holds (t : FileTree) (path : Text) : Bool :=
  match t.resolve path with
  | .error _ => false
  | .ok (.directory _) => true
  | .ok (.entry dir name slash) =>
    match t.child dir name with
    | .error _ => false
    | .ok .directory => true
    | .ok _ => !slash

/-- Opens the file that a path names for writing: where it is, and the tree with it. A missing file
is made, an existing one keeps its content. -/
def openForWriting (t : FileTree) (path : Text) : Except IoError (Place × FileTree) := do
  match ← t.resolve path with
  | .directory _ => throw .isDirectory
  | .entry _ _ true => throw .isDirectory
  | .entry dir name false =>
    let place := dir ++ [name]
    match t.child dir name with
    | .ok (.file _) => return (place, t)
    | .ok .directory => throw .isDirectory
    | .ok (.special s) =>
      match s.refuses with
      | none => return (place, t)
      | some e => throw e
    | .error e => if e = .notFound then return (place, t.put place (.file [])) else throw e

/-- Discards the content of an open file. -/
def truncate (t : FileTree) (p : Place) : Except IoError FileTree :=
  match t.at? p with
  | some (.file _) => .ok (t.put p (.file []))
  | _ => .error .invalidArgument

/-- Writes bytes over the content of an open file from its start. What the file held beyond them
stays. -/
def writeOver (t : FileTree) (p : Place) (bytes : Bytes) : FileTree :=
  match t.at? p with
  | some (.file old) => t.put p (.file (bytes ++ old.drop bytes.length))
  | _ => t

end FileTree
end MismatchLog
