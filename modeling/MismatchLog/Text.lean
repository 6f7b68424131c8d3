/-!
Text and bytes. Both are plain lists, so that laws about them go by recursion on their elements.
-/

namespace MismatchLog

/-- A text is the list of its characters. -/
abbrev Text := List Char

/-- A file, a stream or a part of one. -/
abbrev Bytes := List UInt8

namespace Text

/-- Lower-cases A to Z and leaves every other character alone. -/
def lower (t : Text) : Text := t.map Char.toLower

/-- What follows `w` in a text that starts with it. -/
def after? (w t : Text) : Option Text :=
  if w <+: t then some (t.drop w.length) else none

/-- `w` stands somewhere in the text, in one piece. -/
def occursIn (w : Text) : Text → Bool
  | [] => w.isEmpty
  | c :: rest => w.isPrefixOf (c :: rest) || occursIn w rest

theorem occursIn_iff {w t : Text} : occursIn w t = true ↔ w <:+: t := by
  induction t with
  | nil => simp [occursIn]
  | cons c rest ih =>
    rw [occursIn, Bool.or_eq_true, ih, List.isPrefixOf_iff_prefix, List.infix_cons_iff]

/-- A number in decimal digits, without leading zeros. -/
def decimal (n : Nat) : Text := Nat.toDigits 10 n

/-- An integer in decimal digits, with a sign only below zero. -/
def signedDecimal : Int → Text
  | .ofNat n => decimal n
  | .negSucc n => '-' :: decimal (n + 1)

/-- The parts of a text between the occurrences of a character, empty ones included. -/
def cut (sep : Char) : Text → List Text
  | [] => [[]]
  | c :: rest =>
    if c = sep then [] :: cut sep rest
    else match cut sep rest with
      | [] => [[c]]
      | part :: parts => (c :: part) :: parts

/-- The first `n` characters. -/
def preview (n : Nat) (t : Text) : Text := t.take n

/-- The value of a hexadecimal digit in either case. -/
def hexValue? (c : Char) : Option Nat :=
  if '0' ≤ c ∧ c ≤ '9' then some (c.toNat - '0'.toNat)
  else if 'a' ≤ c ∧ c ≤ 'f' then some (c.toNat - 'a'.toNat + 10)
  else if 'A' ≤ c ∧ c ≤ 'F' then some (c.toNat - 'A'.toNat + 10)
  else none

/-- The number that digits in a base stand for. -/
def ofDigits (base : Nat) (ds : Text) : Nat :=
  ds.foldl (fun n c => base * n + (hexValue? c).getD 0) 0

/-- The ASCII hexadecimal digits, in either case. -/
def isHexDigit (c : Char) : Bool := (hexValue? c).isSome

/-- A number that is a character: none of the surrogates, and not beyond the last one. -/
def character? (n : Nat) : Option Char := if n.isValidChar then some (Char.ofNat n) else none

/-- Drops characters that take `n` bytes together. The cut must not go through a character. -/
def dropBytes? : Nat → Text → Option Text
  | 0, t => some t
  | _ + 1, [] => none
  | n + 1, c :: rest =>
    if c.utf8Size ≤ n + 1 then dropBytes? (n + 1 - c.utf8Size) rest else none

/-- Takes characters that take `n` bytes together. The cut must not go through a character. -/
def takeBytes? : Nat → Text → Option Text
  | 0, _ => some []
  | _ + 1, [] => none
  | n + 1, c :: rest =>
    if c.utf8Size ≤ n + 1 then (takeBytes? (n + 1 - c.utf8Size) rest).map (c :: ·) else none

/-- The part between two places that are counted in bytes. -/
def slice? (start stop : Nat) (t : Text) : Option Text :=
  (dropBytes? start t).bind (takeBytes? (stop - start))

/-- The order of texts by their characters. Of two texts of which one starts with the other the
shorter comes first. -/
def atMost : Text → Text → Bool
  | [], _ => true
  | _ :: _, [] => false
  | a :: s, b :: t => a.toNat < b.toNat || (a = b && atMost s t)

/-- A character that one of the closed ranges holds. -/
def inRanges (ranges : List (Nat × Nat)) (c : Char) : Bool :=
  ranges.any fun r => r.1 ≤ c.toNat && c.toNat ≤ r.2

end Text
end MismatchLog
