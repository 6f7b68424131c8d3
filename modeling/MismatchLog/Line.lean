import MismatchLog.Text.Utf8

/-!
Lines of a log. A log is cut after every line feed, and each line is decoded on its own, so a
broken character never reaches over a line's end. The marker is looked for in the decoded text.
-/

namespace MismatchLog.Line

/-- Line feed. -/
def lf : UInt8 := 0x0A

/-- Puts a byte in front of lines: a line feed is a line of its own, any other byte belongs to the
first line. -/
def prepend (b : UInt8) (lines : List Bytes) : List Bytes :=
  if b = lf then [b] :: lines
  else match lines with
    | [] => [[b]]
    | line :: rest => (b :: line) :: rest

/-- Cuts a log after every line feed. The last line may lack one; there is no empty line. -/
def split (log : Bytes) : List Bytes := log.foldr prepend []

theorem flatten_prepend (b : UInt8) (lines : List Bytes) :
    (prepend b lines).flatten = b :: lines.flatten := by
  unfold prepend
  split
  · rfl
  · cases lines <;> rfl

theorem split_cons (b : UInt8) (log : Bytes) : split (b :: log) = prepend b (split log) := rfl

/-- Nothing is lost and nothing added. -/
theorem flatten_split (log : Bytes) : (split log).flatten = log := by
  induction log with
  | nil => rfl
  | cons b log ih => rw [split_cons, flatten_prepend, ih]

def text (raw : Bytes) : Text := Utf8.decode raw

def texts (log : Bytes) : List Text := (split log).map text

/-- Drops a final line feed, and one carriage return before it. Nothing else is trimmed. -/
def chomp : Text → Text
  | [] => []
  | ['\n'] => []
  | ['\r', '\n'] => []
  | c :: rest => c :: chomp rest

/-- What a register mismatch is reported with. -/
def marker : Text := "GVM error: DUT and REF xreg mismatch".toList

/-- The marker occurs somewhere in the text. -/
def isMarked (t : Text) : Bool := Text.occursIn marker t

end MismatchLog.Line
