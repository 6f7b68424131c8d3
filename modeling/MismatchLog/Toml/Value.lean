import MismatchLog.Decimal.Binary64
import MismatchLog.Text

/-!
TOML values and tables. A table lists its members in the order in which they were defined, and
knows how it was defined, because that decides what may be added to it.
-/

namespace MismatchLog.Toml

/-- How a table was defined. -/
inductive Origin where
  /-- By a header of its own. -/
  | header
  /-- As a parent in the header of another table. -/
  | implied
  /-- As a parent in a dotted key. -/
  | dotted
  /-- Between braces. -/
  | inline
  deriving DecidableEq, Repr

inductive Value where
  | boolean (b : Bool)
  | integer (n : Int)
  | float (x : Binary64)
  | string (t : Text)
  /-- A date, a time or both. -/
  | moment
  | array (items : List Value)
  | table (origin : Origin) (members : List (Text × Value))
  /-- An array of tables with headers; it is never empty. -/
  | tables (elements : List (List (Text × Value)))

abbrev Table := List (Text × Value)

namespace Table

/-- Changes the value of a name, which keeps its place. -/
def replace (name : Text) (v : Value) : Table → Table
  | [] => []
  | m :: rest => if m.1 = name then (name, v) :: rest else m :: replace name v rest

/-- Removes a name. -/
def remove (name : Text) (t : Table) : Table := t.filter fun m => m.1 ≠ name

/-- Adds a new name at the end. A name is defined only once. -/
def define (t : Table) (name : Text) (v : Value) : Option Table :=
  if (t.lookup name).isSome then none else some (t ++ [(name, v)])

/-- Defines a dotted key. Its parents are made where they are missing, and entered where a dotted
key made them; a parent that only a header implies can be passed, but nothing is added to it. -/
def assign (v : Value) : (path : List Text) → (name : Text) → Table → Option Table
  | [], name, t => t.define name v
  | parent :: path, name, t =>
    match t.lookup parent with
    | none => do
      let members ← assign v path name []
      return t ++ [(parent, .table .dotted members)]
    | some (.table origin members) =>
      if origin = .dotted ∨ (origin = .implied ∧ path ≠ []) then do
        let members ← assign v path name members
        return t.replace parent (.table origin members)
      else none
    | some (.tables elements) =>
      match path, elements.reverse with
      | _ :: _, last :: before => do
        let members ← assign v path name last
        return t.replace parent (.tables (members :: before).reverse)
      | _, _ => none
    | some _ => none

/-- Changes the table that the parents in a header lead to, and answers what the change answers. A
missing parent is implied; of an array of tables the last one is entered. -/
def within (change : Table → Option (Table × α)) : (path : List Text) → Table → Option (Table × α)
  | [], t => change t
  | parent :: path, t =>
    match t.lookup parent with
    | none => do
      let (members, a) ← within change path []
      return (t ++ [(parent, .table .implied members)], a)
    | some (.table .inline _) => none
    | some (.table origin members) => do
      let (members, a) ← within change path members
      return (t.replace parent (.table origin members), a)
    | some (.tables elements) =>
      match elements.reverse with
      | last :: before => do
        let (members, a) ← within change path last
        return (t.replace parent (.tables (members :: before).reverse), a)
      | [] => none
    | some _ => none

/-- Takes out the members of a table that is about to get its header: none, or those it has from
being implied. Every other value under the name excludes the header. -/
def detach (name : Text) (t : Table) : Option (Table × Table) :=
  match t.lookup name with
  | none => some (t, [])
  | some (.table .implied members) => some (t.remove name, members)
  | some _ => none

/-- Adds a table to the array of tables under a name. -/
def push (t : Table) (name : Text) (members : Table) : Option (Table × Unit) :=
  match t.lookup name with
  | none => some (t ++ [(name, .tables [members])], ())
  | some (.tables elements) => some (t.replace name (.tables (elements ++ [members])), ())
  | some _ => none

end Table
end MismatchLog.Toml
