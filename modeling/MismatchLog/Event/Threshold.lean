import MismatchLog.Event.Level

/-!
Thresholds: how grave an event has to be to be told.
-/

namespace MismatchLog.Event

/-- The level of detail of a directive; `none` lets nothing through. -/
abbrev Threshold := Option Level

namespace Threshold

/-- Reads a level, in any letter case or as a number, or the word `off`. -/
def ofName? (t : Text) : Option Threshold :=
  match Level.ofName? t with
  | some l => some (some l)
  | none =>
    if Text.lower t = "off".toList then some none
    else
      let digits := match t with
        | '+' :: rest => rest
        | _ => t
      if digits = [] ∨ !digits.all Char.isDigit then none
      else
        let n := Text.ofDigits 10 digits
        if n = 0 then some none else (Level.all.find? fun l => l.detail = n).map some

def admits (t : Threshold) (l : Level) : Bool :=
  match t with
  | none => false
  | some m => l.detail ≤ m.detail

end Threshold
end MismatchLog.Event
