import MismatchLog.Text

/-!
What separates the parts of a TOML document: blanks, comments and the ends of lines.
-/

namespace MismatchLog.Toml

def isBlank (c : Char) : Bool := c = ' ' || c = '\t'

def skipBlanks (t : Text) : Text := t.dropWhile isBlank

/-- A tab, or a character that is no control. Only such may stand in comments and strings. -/
def isPlain (c : Char) : Bool := c = '\t' || (0x20 ≤ c.toNat && c.toNat ≠ 0x7F)

/-- The rest of a text that starts with a line feed, or a carriage return and a line feed. -/
def newline? : Text → Option Text
  | '\n' :: rest => some rest
  | '\r' :: '\n' :: rest => some rest
  | _ => none

/-- Skips a comment up to the end of its line. -/
def skipComment : Text → Text
  | '#' :: rest => rest.dropWhile isPlain
  | t => t

/-- What follows the end of a line, before which blanks and a comment may stand. The end of the
text ends a line too. -/
def lineEnd? (t : Text) : Option Text :=
  match skipComment (skipBlanks t) with
  | [] => some []
  | rest => newline? rest

/-- Skips blanks, comments and ends of lines between the items of an array. A comment that holds a
control character is left standing where it breaks off. -/
def skipGaps (inComment : Bool) : Text → Text
  | [] => []
  | '\n' :: rest => skipGaps false rest
  | '\r' :: '\n' :: rest => skipGaps false rest
  | c :: rest =>
    if isBlank c || (inComment && isPlain c) then skipGaps inComment rest
    else if c = '#' then skipGaps true rest
    else c :: rest

end MismatchLog.Toml
