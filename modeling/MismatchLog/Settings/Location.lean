import MismatchLog.FileTree
import MismatchLog.Settings

/-!
Where settings are kept, and loading them from there. A missing file is no fault. A file that
cannot be read as a text changes nothing and gives one warning; warnings about what a file says
name the file.
-/

namespace MismatchLog.Settings

/-- What the user's environment says about directories. -/
structure Directories where
  /-- Counts unless it is empty. -/
  home : Option Text
  /-- The home directory in the system's list of users, for want of one above. Counts unless it is
  empty, too. -/
  account : Option Text
  /-- Counts only if it is an absolute path, and only for a user with a home directory. -/
  configHome : Option Text
  deriving DecidableEq, Repr

def fileName : Text := "config.toml".toList

/-- The user's home directory. -/
def Directories.home? (d : Directories) : Option Text :=
  (d.home.filter (· ≠ [])).or (d.account.filter (· ≠ []))

/-- The directory of the user's settings. Without a home directory there is none. -/
def Directories.config? (d : Directories) : Option Text :=
  d.home?.map fun home =>
    (d.configHome.filter Path.isAbsolute).getD (Path.join home ".config".toList)

/-- The warning that there is no directory of settings. -/
def homeless : Text :=
  "Could not determine platform directories; looking for config.toml ".toList ++
    "in the current directory.".toList

/-- The file that is looked at when none is named, and a warning if it is not the user's own. -/
def defaultPath (d : Directories) : Text × Option Text :=
  match d.config? with
  | some dir => (Path.join (Path.join dir "xregscan".toList) fileName, none)
  | none => (Path.join ['.'] fileName, some homeless)

/-- A warning about a settings file. -/
inductive Notice where
  | unreadable (path : Text) (e : IoError)
  | within (path : Text) (w : Warning)
  deriving DecidableEq, Repr

def Notice.message : Notice → Text
  | .unreadable path e =>
    "Could not read config file '".toList ++ path ++ "': ".toList ++ e.message ++
      ". Using defaults.".toList
  | .within path w => path ++ [':', ' '] ++ w.message

def notUtf8 : IoError := .other "stream did not contain valid UTF-8".toList

/-- The text of a file. -/
def readText (t : FileTree) (path : Text) : Except IoError Text := do
  match Utf8.decode? (← t.read path) with
  | some content => return content
  | none => throw notUtf8

def load (t : FileTree) (path : Text) : Settings × List Notice :=
  if t.holds path then
    match readText t path with
    | .ok content =>
      let (settings, warnings) := ofText content
      (settings, warnings.map (.within path))
    | .error e => (default, [.unreadable path e])
  else (default, [])

end MismatchLog.Settings
