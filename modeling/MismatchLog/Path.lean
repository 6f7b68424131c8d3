import MismatchLog.Text

/-!
Paths as texts, and their components. Two spellings are the same path when they have the same
components; one spelling, a dash, stands for a standard stream.
-/

namespace MismatchLog.Path

/-- The parts between the slashes, empty ones included. -/
def segments (p : Text) : List Text := Text.cut '/' p

def isAbsolute : Text → Bool
  | c :: _ => c = '/'
  | [] => false

inductive Component where
  | root
  | here
  | parent
  | name (t : Text)
  deriving DecidableEq, Repr

/-- The component of a segment after the first. Repeated slashes and single dots have none. -/
def innerComponent? (segment : Text) : Option Component :=
  if segment = [] ∨ segment = ['.'] then none
  else if segment = ['.', '.'] then some .parent
  else some (.name segment)

/-- The components of a path. A single dot counts only in front of a relative path. -/
def components (p : Text) : List Component :=
  match segments p with
  | [] => []
  | first :: rest =>
    let start :=
      if isAbsolute p then [Component.root]
      else if first = ['.'] then [Component.here]
      else (innerComponent? first).toList
    start ++ rest.filterMap innerComponent?

/-- The path has the components of a dash. -/
def isDash (p : Text) : Bool := components p = components ['-']

/-- A path that starts from another one, unless it is absolute. -/
def join (base p : Text) : Text :=
  if isAbsolute p ∨ base = [] then p
  else if base.getLast? = some '/' then base ++ p
  else base ++ '/' :: p

end MismatchLog.Path
