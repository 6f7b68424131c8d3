import MismatchLog.Text.Extending
import MismatchLog.Text.Unprintable

/-!
A text shown in double quotes, in which every character can be seen: one that leaves no mark, or
that would combine with its neighbour, is written by its number.
-/

namespace MismatchLog.Text

def isVisible (c : Char) : Bool :=
  if c.toNat < 0x80 then 0x20 ≤ c.toNat && c.toNat < 0x7F
  else !inRanges unprintableRanges c && !inRanges extendingRanges c

/-- A number in hexadecimal digits, in lower case and without leading zeros. -/
def hexadecimal (n : Nat) : Text := Nat.toDigits 16 n

def shownChar (c : Char) : Text :=
  if c = '\x00' then ['\\', '0']
  else if c = '\t' then ['\\', 't']
  else if c = '\r' then ['\\', 'r']
  else if c = '\n' then ['\\', 'n']
  else if c = '"' then ['\\', '"']
  else if c = '\\' then ['\\', '\\']
  else if isVisible c then [c]
  else ['\\', 'u', '\x7b'] ++ hexadecimal c.toNat ++ ['\x7d']

def shown (t : Text) : Text := '"' :: t.flatMap shownChar ++ ['"']

end MismatchLog.Text
