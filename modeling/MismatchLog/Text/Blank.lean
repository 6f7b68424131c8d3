import MismatchLog.Text

/-!
The characters with the Unicode property White_Space.
-/

namespace MismatchLog.Text

/-- White_Space as closed ranges of code points. -/
def blankRanges : List (Nat × Nat) :=
  [(0x09, 0x0D), (0x20, 0x20), (0x85, 0x85), (0xA0, 0xA0), (0x1680, 0x1680), (0x2000, 0x200A),
    (0x2028, 0x2029), (0x202F, 0x202F), (0x205F, 0x205F), (0x3000, 0x3000)]

def isBlank (c : Char) : Bool := inRanges blankRanges c

def skipBlanks (t : Text) : Text := t.dropWhile isBlank

/-- A text without the blanks around it. -/
def trim (t : Text) : Text := (skipBlanks (skipBlanks t).reverse).reverse

end MismatchLog.Text
