import MismatchLog.Text.Blank

/-!
Keys. Marked lines that report the same two register values share a key: the pair of hexadecimal
literals after `DUT` and `REF`, in lower case. A line without such a pair is keyed by its text.
-/

namespace MismatchLog

inductive Key where
  | hexPair (dut ref : Text)
  | rawLine (text : Text)
  deriving DecidableEq, Repr

namespace Key

instance : Hashable Key where
  hash
    | .hexPair dut ref => mixHash (hash (String.ofList dut)) (hash (String.ofList ref))
    | .rawLine text => hash (String.ofList text)

/-- The key of two literals; their letter case has no meaning. -/
def ofLiterals (dut ref : Text) : Key := .hexPair (Text.lower dut) (Text.lower ref)

def isHexPair : Key → Bool
  | .hexPair .. => true
  | .rawLine _ => false

/-- A literal at the start of a text, `0x` or `0X` and all hexadecimal digits that follow, of which
there is at least one; and the rest of the text. -/
def literal? : Text → Option (Text × Text)
  | '0' :: x :: rest =>
    let digits := rest.takeWhile Text.isHexDigit
    if (x = 'x' ∨ x = 'X') ∧ digits ≠ [] then
      some ('0' :: x :: digits, rest.dropWhile Text.isHexDigit)
    else none
  | _ => none

/-- `DUT = literal, REF = literal` at the start of a text. Blanks may stand around the signs. -/
def pair? (t : Text) : Option (Text × Text) := do
  let t ← Text.after? ['D', 'U', 'T'] t
  let t ← Text.after? ['='] (Text.skipBlanks t)
  let (dut, t) ← literal? (Text.skipBlanks t)
  let t ← Text.after? [','] (Text.skipBlanks t)
  let t ← Text.after? ['R', 'E', 'F'] (Text.skipBlanks t)
  let t ← Text.after? ['='] (Text.skipBlanks t)
  let (ref, _) ← literal? (Text.skipBlanks t)
  return (dut, ref)

/-- The pair at the leftmost place where one starts. -/
def firstPair? : Text → Option (Text × Text)
  | [] => none
  | c :: rest =>
    match pair? (c :: rest) with
    | some literals => some literals
    | none => firstPair? rest

/-- The key of a line. -/
def ofLine (line : Text) : Key :=
  match firstPair? line with
  | some (dut, ref) => ofLiterals dut ref
  | none => .rawLine line

end Key
end MismatchLog
