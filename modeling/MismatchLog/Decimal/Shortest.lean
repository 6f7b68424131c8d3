import MismatchLog.Decimal.Binary64
import MismatchLog.Text

/-!
The shortest decimal text of a binary number: the fewest digits that read back as the number, and
of those the nearest to it. It is written positionally and always has a decimal point.
-/

namespace MismatchLog

namespace Shortest

/-- A decimal number. -/
structure Decimal where
  digits : Nat
  exponent : Int
  deriving DecidableEq, Repr

/-- The exponent of the greatest power of ten that is at most `num / den`. -/
def floorLog10 (num den : Nat) : Int :=
  if den ≤ num then ((Nat.toDigits 10 (num / den)).length : Int) - 1
  else -((Nat.toDigits 10 ((den - 1) / num)).length : Int)

/-- The numbers that round to a mantissa and an exponent lie between two bounds. Both bounds and
the number itself, over one denominator. -/
structure Interval where
  low : Nat
  value : Nat
  high : Nat
  den : Nat
  /-- The bounds themselves round to the number. -/
  closed : Bool

/-- The bounds lie half way to the neighbours, of which the lower is nearer below a power of
two. -/
def interval (mantissa : Nat) (exponent : Int) : Interval :=
  let scale := Nat.pow 2 (exponent - 2).toNat
  let gap := if mantissa = Nat.pow 2 52 ∧ -1074 < exponent then 1 else 2
  ⟨(4 * mantissa - gap) * scale, 4 * mantissa * scale, (4 * mantissa + 2) * scale,
    Nat.pow 2 (2 - exponent).toNat, mantissa % 2 = 0⟩

def Interval.holds (i : Interval) (x : Nat) : Bool :=
  if i.closed then i.low ≤ x && x ≤ i.high else i.low < x && x < i.high

/-- The multiple of a power of ten that lies in the interval and is nearest to the value, if there
is one. It is one of the two neighbours of the value; of two equally near the upper is taken. -/
def onGrid? (i : Interval) (exponent : Int) : Option Decimal :=
  let up := Nat.pow 10 (-exponent).toNat
  let unit := i.den * Nat.pow 10 exponent.toNat
  let i : Interval := { i with low := i.low * up, value := i.value * up, high := i.high * up }
  let below := i.value / unit
  let hasBelow := i.holds (below * unit)
  let hasAbove := i.holds ((below + 1) * unit)
  let nearBelow := 2 * (i.value % unit) < unit
  if hasBelow && (nearBelow || !hasAbove) then some ⟨below, exponent⟩
  else if hasAbove then some ⟨below + 1, exponent⟩
  else none

/-- The first hit on the grids of ever smaller powers of ten. They start above the value, because
the next power of ten can be nearer than any number with the value's own first digit. Seventeen
digits always suffice. -/
def ofFinite (mantissa : Nat) (exponent : Int) : Decimal :=
  let i := interval mantissa exponent
  let first := floorLog10 i.value i.den + 1
  let hit := (List.range 18).findSome? fun (n : Nat) => onGrid? i (first - n)
  hit.getD ⟨0, 0⟩

/-- Positional notation, with at least one digit on either side of the point. -/
def Decimal.positional (d : Decimal) : Text :=
  if 0 ≤ d.exponent then
    Text.decimal d.digits ++ List.replicate d.exponent.toNat '0' ++ ['.', '0']
  else
    let places := (-d.exponent).toNat
    let ds := Text.decimal d.digits
    let ds := List.replicate (places + 1 - ds.length) '0' ++ ds
    ds.take (ds.length - places) ++ '.' :: ds.drop (ds.length - places)

end Shortest

/-- The text of a binary number. -/
def Binary64.text : Binary64 → Text
  | .nan => ['N', 'a', 'N']
  | .infinite negative => (if negative then ['-'] else []) ++ ['i', 'n', 'f']
  | .finite negative mantissa exponent =>
    (if negative then ['-'] else []) ++
      (if mantissa = 0 then ['0', '.', '0'] else (Shortest.ofFinite mantissa exponent).positional)

end MismatchLog
