import MismatchLog.Text.Alphanumeric
import MismatchLog.Text.Blank

/-!
Patterns: regular expressions as a directive may give them for the value of a field. No event has
its values compared with a pattern, so all that counts here is whether a pattern is well formed.
A pattern is read from left to right in a mode that flags in it can change.
-/

namespace MismatchLog.Event.Pattern

structure Mode where
  /-- Signs stand for characters, and not for bytes. -/
  unicode : Bool
  /-- Blanks and comments between the signs do not count. -/
  spaced : Bool
  deriving DecidableEq, Repr

/-- Skips blanks, and comments from a number sign to the end of the line. -/
def skipSpaced (inComment : Bool) : Text → Text
  | [] => []
  | c :: rest =>
    if inComment then skipSpaced (c ≠ '\n') rest
    else if Text.isBlank c then skipSpaced false rest
    else if c = '#' then skipSpaced true rest
    else c :: rest

/-- The first character that counts, where a comment ends at its number sign. -/
def peekSpaced (inComment : Bool) : Text → Option Char
  | [] => none
  | c :: rest =>
    if Text.isBlank c then peekSpaced inComment rest
    else if c = '#' && !inComment then peekSpaced true rest
    else some c

def Mode.skip (m : Mode) (t : Text) : Text := if m.spaced then skipSpaced false t else t

def Mode.peek (m : Mode) (t : Text) : Option Char :=
  if m.spaced then (peekSpaced false t).or t.head? else t.head?

/-- Switches what a flag stands for. Most flags change nothing that matters here. -/
def Mode.set (m : Mode) (flag : Char) (on : Bool) : Mode :=
  if flag = 'u' then { m with unicode := on }
  else if flag = 'x' then { m with spaced := on }
  else m

/-- What one sign or one escape stands for. -/
inductive Atom where
  /-- A character, perhaps given as the number of a byte. -/
  | literal (c : Char) (isByte : Bool)
  /-- Digits, white space or the characters of words, or all others. -/
  | shorthand (negated : Bool)
  /-- The characters with a property. -/
  | property
  /-- The start or the end of the text. -/
  | anchor
  /-- The edge of a word, or any place that is none. -/
  | wordEdge
  deriving DecidableEq, Repr

/-- An atom may stand by itself. What could take a character apart may not, and the edges of words
are found between bytes only. -/
def Atom.isPart (m : Mode) : Atom → Bool
  | .literal c isByte => m.unicode || !isByte || c.toNat < 0x80
  | .shorthand negated => m.unicode || !negated
  | .property => m.unicode
  | .anchor => true
  | .wordEdge => !m.unicode

/-- An atom may stand in a class. -/
def Atom.isMember (m : Mode) : Atom → Bool
  | .literal c _ => m.unicode || c.toNat < 0x80
  | .shorthand negated => m.unicode || !negated
  | .property => m.unicode
  | .anchor => false
  | .wordEdge => false

/-- A number of exactly `n` hexadecimal digits. -/
def hexDigits? (m : Mode) : Nat → Text → Option (Text × Text)
  | 0, t => some ([], t)
  | n + 1, t =>
    match m.skip t with
    | [] => none
    | c :: rest =>
      if Text.isHexDigit c then (hexDigits? m n rest).map fun r => (c :: r.1, r.2) else none

/-- The character whose number has `n` hexadecimal digits. -/
def numbered? (m : Mode) (n : Nat) (isByte : Bool) (t : Text) : Option (Atom × Text) := do
  let (ds, rest) ← hexDigits? m n t
  return (.literal (← Text.character? (Text.ofDigits 16 ds)) isByte, rest)

/-- The letters of the general categories, in either case. -/
def isCategory (c : Char) : Bool := "clmnpsz".toList.contains c.toLower

/-- The control characters that have a letter. -/
def controls : List (Char × Char) :=
  [('a', '\x07'), ('f', '\x0c'), ('t', '\t'), ('n', '\n'), ('r', '\r'), ('v', '\x0b')]

/-- What follows a backslash. A sign of ASCII that is no letter or digit stands for itself. -/
def escape? (m : Mode) : Text → Option (Atom × Text)
  | [] => none
  | c :: rest =>
    if c = 'x' then numbered? m 2 true rest
    else if c = 'u' then numbered? m 4 false rest
    else if c = 'U' then numbered? m 8 false rest
    else if c = 'p' || c = 'P' then
      match m.skip rest with
      | [] => none
      | category :: rest => if isCategory category then some (.property, rest) else none
    else if c = 'd' || c = 's' || c = 'w' then some (.shorthand false, rest)
    else if c = 'D' || c = 'S' || c = 'W' then some (.shorthand true, rest)
    else if c = 'A' || c = 'z' then some (.anchor, rest)
    else if c = 'b' || c = 'B' || c = '<' || c = '>' then some (.wordEdge, rest)
    else match controls.lookup c with
      | some made => some (.literal made false, rest)
      | none =>
        if c.toNat < 0x80 && !c.isAlphanum then some (.literal c false, rest) else none

/-! ### Classes -/

def classNames : List Text :=
  ["alnum".toList, "alpha".toList, "ascii".toList, "blank".toList, "cntrl".toList,
    "digit".toList, "graph".toList, "lower".toList, "print".toList, "punct".toList,
    "space".toList, "upper".toList, "word".toList, "xdigit".toList]

/-- A class by its name between colons, after the bracket: whether it is negated, and the rest. -/
def namedClass? : Text → Option (Bool × Text)
  | ':' :: t =>
    let negated := t.head? = some '^'
    let t := if negated then t.drop 1 else t
    match t.dropWhile (· ≠ ':') with
    | ':' :: ']' :: rest =>
      if classNames.contains (t.takeWhile (· ≠ ':')) then some (negated, rest) else none
    | _ => none
  | _ => none

/-- The start of a class, after the bracket. A closing bracket that stands first is a member. The
complement of a class of bytes would take characters apart. -/
def openClass? (m : Mode) (t : Text) : Option Text :=
  let t := m.skip t
  let negated := t.head? = some '^'
  let t := if negated then m.skip (t.drop 1) else t
  if negated && !m.unicode then none
  else if t.head? = some ']' then some (t.drop 1)
  else some t

def classAtom? (m : Mode) : Text → Option (Atom × Text)
  | [] => none
  | '\\' :: rest => escape? m rest
  | c :: rest => some (.literal c false, rest)

/-- A member of a class or a range of characters, and what follows it. -/
def member? (m : Mode) (t : Text) : Option Text := do
  let (first, t) ← classAtom? m t
  if !first.isMember m then none
  else match m.skip t with
    | '-' :: rest =>
      if m.peek rest = some ']' || m.peek rest = some '-' then some ('-' :: rest)
      else do
        let (last, rest) ← classAtom? m (m.skip rest)
        match first, last with
        | .literal a _, .literal b _ =>
          if last.isMember m && a.toNat ≤ b.toNat then some rest else none
        | _, _ => none
    | t => some t

/-- The rest of a text after two signs that combine classes. -/
def operator? : Text → Option Text
  | '&' :: '&' :: rest => some rest
  | '-' :: '-' :: rest => some rest
  | '~' :: '~' :: rest => some rest
  | _ => none

/-- What follows a class of which `depth` brackets are open. Dashes at its start are members. The
bound is one on the members that are left. -/
def classEnd? (m : Mode) : (bound depth : Nat) → (atStart : Bool) → Text → Option Text
  | 0, _, _, _ => none
  | bound + 1, depth, atStart, t =>
    match m.skip t with
    | [] => none
    | '[' :: rest =>
      match namedClass? rest with
      | some (negated, rest) =>
        if negated && !m.unicode then none else classEnd? m bound depth false rest
      | none => do classEnd? m bound (depth + 1) true (← openClass? m rest)
    | ']' :: rest => if depth ≤ 1 then some rest else classEnd? m bound (depth - 1) false rest
    | c :: rest =>
      if atStart && c = '-' then classEnd? m bound depth true rest
      else match operator? (c :: rest) with
        | some rest => classEnd? m bound depth false rest
        | none => do classEnd? m bound depth false (← member? m (c :: rest))

/-- What follows a class, after its bracket. -/
def class? (m : Mode) (t : Text) : Option Text := do
  classEnd? m t.length 1 true (← openClass? m t)

/-! ### Groups -/

/-- How far a pattern was read. -/
structure Progress where
  mode : Mode
  /-- The modes around the groups that are open, the innermost first. -/
  outer : List Mode
  /-- The names of groups. A name is given only once. -/
  names : List Text
  /-- There is something that a sign of repetition can refer to. -/
  repeatable : Bool
  deriving DecidableEq, Repr

def Progress.start : Progress := ⟨⟨true, false⟩, [], [], false⟩

/-- Goes into a group. -/
def Progress.enter (p : Progress) (m : Mode) : Progress :=
  { p with mode := m, outer := p.mode :: p.outer, repeatable := false }

def isNameChar (c : Char) : Bool :=
  Text.isAlphanumeric c || c = '_' || c = '.' || c = '[' || c = ']'

/-- The name of a group, up to its angle bracket. -/
def groupName? (names : List Text) (t : Text) : Option (Text × Text) :=
  let name := t.takeWhile (· ≠ '>')
  match name, t.dropWhile (· ≠ '>') with
  | c :: others, '>' :: rest =>
    if (Text.isAlphabetic c || c = '_') && others.all isNameChar && !names.contains name then
      some (name, rest)
    else none
  | _, _ => none

/-- Flags, of which each may stand once and those after a dash are switched off. Answers the mode,
whether a group is opened, and the rest. -/
def flags? (seen : List Char) (on : Bool) (m : Mode) : Text → Option (Mode × Bool × Text)
  | [] => none
  | c :: rest =>
    if c = ':' then if seen.head? = some '-' then none else some (m, true, rest)
    else if c = ')' then
      if seen = [] || seen.head? = some '-' then none else some (m, false, rest)
    else if seen.contains c then none
    else if c = '-' then flags? (c :: seen) false m rest
    else if "imsURux".toList.contains c then flags? (c :: seen) on (m.set c on) rest
    else none

/-- The start of a group, or flags for the rest of the group around them, after the parenthesis. -/
def group? (p : Progress) (t : Text) : Option (Progress × Text) :=
  match p.mode.skip t with
  | '?' :: 'P' :: '<' :: rest => do
    let (name, rest) ← groupName? p.names rest
    return ({ p.enter p.mode with names := name :: p.names }, rest)
  | '?' :: '<' :: rest => do
    let (name, rest) ← groupName? p.names rest
    return ({ p.enter p.mode with names := name :: p.names }, rest)
  | '?' :: rest => do
    let (m, opens, rest) ← flags? [] true p.mode rest
    return (if opens then p.enter m else { p with mode := m, repeatable := false }, rest)
  | rest => some (p.enter p.mode, rest)

/-! ### Patterns -/

/-- A sign of repetition may be followed by a question mark. -/
def skipLazy : Text → Text
  | '?' :: rest => rest
  | t => t

/-- Reads the part of a pattern that begins with a character. A brace would have to be closed,
which no value of a field can do. -/
def part? (p : Progress) (c : Char) (rest : Text) : Option (Progress × Text) :=
  if c = '(' then group? p rest
  else if c = ')' then
    match p.outer with
    | [] => none
    | m :: outer => some ({ p with mode := m, outer, repeatable := true }, rest)
  else if c = '|' then some ({ p with repeatable := false }, rest)
  else if c = '[' then (class? p.mode rest).map fun rest => ({ p with repeatable := true }, rest)
  else if c = '*' || c = '+' || c = '?' then
    if p.repeatable then some (p, skipLazy rest) else none
  else if c = '\x7b' then none
  else if c = '\\' then do
    let (a, rest) ← escape? p.mode rest
    if a.isPart p.mode then some ({ p with repeatable := true }, rest) else none
  else if c = '.' && !p.mode.unicode then none
  else some ({ p with repeatable := true }, rest)

/-- The bound is one on the parts that are left. -/
def isWellFormedFrom : Nat → Progress → Text → Bool
  | 0, p, t => (p.mode.skip t).isEmpty && p.outer.isEmpty
  | bound + 1, p, t =>
    match p.mode.skip t with
    | [] => p.outer.isEmpty
    | c :: rest =>
      match part? p c rest with
      | none => false
      | some (p, rest) => isWellFormedFrom bound p rest

def isWellFormed (t : Text) : Bool := isWellFormedFrom t.length .start t

end MismatchLog.Event.Pattern
