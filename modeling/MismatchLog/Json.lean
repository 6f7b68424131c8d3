import MismatchLog.Text

/-!
JSON values and their written form. One printer serves every layout: a layout says how lines are
broken and what follows a member's name, and adds white space only.
-/

namespace MismatchLog

inductive Json where
  | number (n : Nat)
  | string (t : Text)
  | array (items : List Json)
  | object (members : List (Text × Json))

namespace Json

structure Layout where
  /-- What stands before an item and before a closing bracket, by depth. -/
  lineBreak : Nat → Text
  /-- What stands between a member's name and its value. -/
  colon : Text

/-- No white space at all. -/
def Layout.compact : Layout := ⟨fun _ => [], [':']⟩

/-- One line for each item, two blanks for each level. -/
def Layout.indented : Layout :=
  ⟨fun depth => '\n' :: List.replicate (2 * depth) ' ', [':', ' ']⟩

/-- A character inside a quoted string. Only quotes, backslashes and control characters are
escaped, the common ones by a letter. -/
def escape (c : Char) : Text :=
  if c = '"' then ['\\', '"']
  else if c = '\\' then ['\\', '\\']
  else if c = '\x08' then ['\\', 'b']
  else if c = '\x0c' then ['\\', 'f']
  else if c = '\n' then ['\\', 'n']
  else if c = '\r' then ['\\', 'r']
  else if c = '\t' then ['\\', 't']
  else if c.toNat < 0x20 then
    ['\\', 'u', '0', '0', Nat.digitChar (c.toNat / 16), Nat.digitChar (c.toNat % 16)]
  else [c]

def quoted (t : Text) : Text := '"' :: t.flatMap escape ++ ['"']

mutual

/-- A value at a depth. An empty array or object is written without a line break. -/
def write (l : Layout) (depth : Nat) : Json → Text
  | .number n => Text.decimal n
  | .string t => quoted t
  | .array [] => ['[', ']']
  | .array (v :: vs) =>
    '[' :: l.lineBreak (depth + 1) ++ write l (depth + 1) v ++ writeItems l (depth + 1) vs
      ++ l.lineBreak depth ++ [']']
  | .object [] => ['{', '}']
  | .object (m :: ms) =>
    '{' :: l.lineBreak (depth + 1) ++ writeMember l (depth + 1) m
      ++ writeMembers l (depth + 1) ms ++ l.lineBreak depth ++ ['}']

/-- The items after the first. -/
def writeItems (l : Layout) (depth : Nat) : List Json → Text
  | [] => []
  | v :: vs => ',' :: l.lineBreak depth ++ write l depth v ++ writeItems l depth vs

def writeMember (l : Layout) (depth : Nat) : Text × Json → Text
  | (name, v) => quoted name ++ l.colon ++ write l depth v

/-- The members after the first. -/
def writeMembers (l : Layout) (depth : Nat) : List (Text × Json) → Text
  | [] => []
  | m :: ms => ',' :: l.lineBreak depth ++ writeMember l depth m ++ writeMembers l depth ms

end

end Json
end MismatchLog
