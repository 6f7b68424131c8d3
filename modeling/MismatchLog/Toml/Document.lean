import MismatchLog.Toml.Number
import MismatchLog.Toml.Quoted

/-!
TOML documents. A document is first read as a list of statements: headers and definitions, one a
line. Then the statements are carried out in order, which gives the table of the document. A text
that is no document, or that defines a name twice, has no table.
-/

namespace MismatchLog.Toml

/-- Arrays, inline tables and the parts of a dotted key go less deep than eighty. -/
def depthLimit : Nat := 79

def isBare (c : Char) : Bool :=
  c.isAlpha || c.isDigit || c = '-' || c = '_'

/-- One part of a key. -/
def simpleKey? : Text → Option (Text × Text)
  | '"' :: rest => basicBody none rest
  | '\'' :: rest => literalBody rest
  | t =>
    let name := t.takeWhile isBare
    if name = [] then none else some (name, t.dropWhile isBare)

/-- The parts of a key, at most `n` of them, with blanks around each. -/
def key? : Nat → Text → Option (List Text × Text)
  | 0, _ => none
  | n + 1, t => do
    let (name, t) ← simpleKey? (skipBlanks t)
    match skipBlanks t with
    | '.' :: t => do
      let (names, t) ← key? n t
      return (name :: names, t)
    | t => return ([name], t)

/-- A key, an equals sign and a value. -/
def definition? (value? : Text → Option (Value × Text)) (t : Text) :
    Option ((List Text × Value) × Text) := do
  let (names, t) ← key? depthLimit t
  let (v, t) ← value? (skipBlanks (← Text.after? ['='] t))
  return ((names, v), t)

/-- Defines a key of one part or more. -/
def Table.define? (t : Table) (d : List Text × Value) : Option Table := do
  let name ← d.1.getLast?
  Table.assign d.2 d.1.dropLast name t

/-- The rest of an array. A comma may stand before the closing bracket. The bound is one on the
items that are left. -/
def items? (value? : Text → Option (Value × Text)) : Nat → Text → Option (List Value × Text)
  | 0, _ => none
  | bound + 1, t =>
    match skipGaps false t with
    | ']' :: rest => some ([], rest)
    | t => do
      let (v, t) ← value? t
      match skipGaps false t with
      | ',' :: rest => do
        let (vs, rest) ← items? value? bound rest
        return (v :: vs, rest)
      | ']' :: rest => return ([v], rest)
      | _ => none

/-- The definitions of an inline table that has some, up to its closing brace. The bound is one on
the definitions that are left. -/
def definitions? (value? : Text → Option (Value × Text)) :
    Nat → Text → Option (List (List Text × Value) × Text)
  | 0, _ => none
  | bound + 1, t => do
    let (d, t) ← definition? value? t
    match skipBlanks t with
    | ',' :: rest => do
      let (ds, rest) ← definitions? value? bound rest
      return (d :: ds, rest)
    | '\x7d' :: rest => return ([d], rest)
    | _ => none

/-- The rest of an inline table. -/
def inlineTable? (value? : Text → Option (Value × Text)) (t : Text) : Option (Value × Text) :=
  match skipBlanks t with
  | '\x7d' :: rest => some (.table .inline [], rest)
  | t => do
    let (ds, rest) ← definitions? value? t.length t
    let members ← ds.foldlM Table.define? []
    return (.table .inline members, rest)

/-- A value that holds no other. -/
def scalar? (t : Text) : Option (Value × Text) :=
  match string? t with
  | some (s, rest) => some (.string s, rest)
  | none =>
    match t with
    | 't' :: 'r' :: 'u' :: 'e' :: rest => some (.boolean true, rest)
    | 'f' :: 'a' :: 'l' :: 's' :: 'e' :: rest => some (.boolean false, rest)
    | _ => number? t

/-- A value in which arrays and inline tables are nested to a depth. -/
def value? : Nat → Text → Option (Value × Text)
  | 0, t => scalar? t
  | depth + 1, t =>
    match t with
    | '[' :: rest => do
      let (vs, rest) ← items? (value? depth) rest.length rest
      return (.array vs, rest)
    | '\x7b' :: rest => inlineTable? (value? depth) rest
    | t => scalar? t

inductive Statement where
  /-- `[key]` -/
  | table (names : List Text)
  /-- `[[key]]` -/
  | element (names : List Text)
  /-- `key = value` -/
  | define (names : List Text) (v : Value)

/-- The statement at the start of a text, with the end of its line. -/
def statement? : Text → Option (Statement × Text)
  | '[' :: '[' :: t => do
    let (names, t) ← key? depthLimit t
    let t ← lineEnd? (← Text.after? [']', ']'] t)
    return (.element names, t)
  | '[' :: t => do
    let (names, t) ← key? depthLimit t
    let t ← lineEnd? (← Text.after? [']'] t)
    return (.table names, t)
  | t => do
    let ((names, v), t) ← definition? (value? depthLimit) t
    let t ← lineEnd? t
    return (.define names v, t)

/-- The statements of a text; lines that are empty but for a comment have none. The bound is one on
the lines. -/
def statements? : Nat → Text → Option (List Statement)
  | _, [] => some []
  | 0, _ :: _ => none
  | bound + 1, t =>
    match lineEnd? t with
    | some rest => statements? bound rest
    | none => do
      let (s, rest) ← statement? (skipBlanks t)
      let ss ← statements? bound rest
      return s :: ss

/-- A document of which some statements were carried out: the tables that are finished, and the one
whose header came last. -/
structure Draft where
  finished : Table
  /-- The key in the last header; empty before the first one. -/
  header : List Text
  /-- The last header makes an element of an array of tables. -/
  isElement : Bool
  members : Table

namespace Draft

def empty : Draft := ⟨[], [], false, []⟩

/-- Puts the table of the last header in its place. Before the first header it is the document's
own. -/
def finish (d : Draft) : Option Table :=
  match d.header.getLast? with
  | none => some d.members
  | some name =>
    let place (t : Table) : Option (Table × Unit) :=
      if d.isElement then t.push name d.members
      else (t.define name (.table .header d.members)).map fun t => (t, ())
    (Table.within place d.header.dropLast d.finished).map Prod.fst

def carryOut (d : Draft) : Statement → Option Draft
  | .define names v => do
    let members ← d.members.define? (names, v)
    return { d with members }
  | .element names => do
    return ⟨← d.finish, names, true, []⟩
  | .table names => do
    let name ← names.getLast?
    let (finished, members) ← Table.within (Table.detach name) names.dropLast (← d.finish)
    return ⟨finished, names, false, members⟩

end Draft

/-- A byte order mark at the start of a document is no part of it. -/
def skipMark : Text → Text
  | '\uFEFF' :: t => t
  | t => t

/-- The table that statements define. -/
def build? (ss : List Statement) : Option Table := do
  let d ← ss.foldlM Draft.carryOut .empty
  d.finish

/-- The table of a document. -/
def read? (t : Text) : Option Table := do
  let t := skipMark t
  build? (← statements? t.length t)

end MismatchLog.Toml
