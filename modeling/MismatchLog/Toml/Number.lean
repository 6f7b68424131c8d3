import MismatchLog.Toml.Value

/-!
Numbers, dates and times as they are written in TOML. Every reader answers what it read and the
rest of the text.
-/

namespace MismatchLog.Toml

/-- A sign at the start of a text, and the rest. -/
def sign : Text → Option Char × Text
  | '+' :: rest => (some '+', rest)
  | '-' :: rest => (some '-', rest)
  | t => (none, t)

/-- Digits with single underscores between them. The digits are answered without the
underscores. -/
def digits (isDigit : Char → Bool) : Text → Text × Text
  | '_' :: c :: rest =>
    if isDigit c then
      let r := digits isDigit rest
      (c :: r.1, r.2)
    else ([], '_' :: c :: rest)
  | c :: rest =>
    if isDigit c then
      let r := digits isDigit rest
      (c :: r.1, r.2)
    else ([], c :: rest)
  | [] => ([], [])

/-- One digit at least, the first without an underscore. -/
def digits? (isDigit : Char → Bool) : Text → Option (Text × Text)
  | c :: rest => if isDigit c then some (digits isDigit (c :: rest)) else none
  | [] => none

/-- The digits of an integer in decimal notation, where a leading zero stands alone. -/
def decimalDigits? : Text → Option (Text × Text)
  | '0' :: rest => some (['0'], rest)
  | t => digits? Char.isDigit t

/-- An integer that a signed word of 64 bits can hold. -/
def inRange? (n : Int) : Option Int :=
  if -0x8000000000000000 ≤ n ∧ n ≤ 0x7FFFFFFFFFFFFFFF then some n else none

def isOctal (c : Char) : Bool := '0' ≤ c && c ≤ '7'

def isBinary (c : Char) : Bool := c = '0' || c = '1'

/-- An unsigned integer in the base that its first two characters name. -/
def based? (isDigit : Char → Bool) (base : Nat) (t : Text) : Option (Int × Text) := do
  let (ds, rest) ← digits? isDigit t
  let n ← inRange? (Text.ofDigits base ds)
  return (n, rest)

def integer? (t : Text) : Option (Int × Text) :=
  match t with
  | '0' :: 'x' :: rest => based? Text.isHexDigit 16 rest
  | '0' :: 'o' :: rest => based? isOctal 8 rest
  | '0' :: 'b' :: rest => based? isBinary 2 rest
  | _ => do
    let (sgn, rest) := sign t
    let (ds, rest) ← decimalDigits? rest
    let n : Int := Text.ofDigits 10 ds
    let n ← inRange? (if sgn = some '-' then -n else n)
    return (n, rest)

/-- The exponent after a mantissa. -/
def exponent? : Text → Option (Int × Text)
  | c :: t =>
    if c = 'e' ∨ c = 'E' then do
      let (sgn, rest) := sign t
      let (ds, rest) ← digits? Char.isDigit rest
      let n : Int := Text.ofDigits 10 ds
      return (if sgn = some '-' then -n else n, rest)
    else none
  | [] => none

/-- A number with a fraction, an exponent or both. One too great for the format is refused, unless
it is negative. -/
def decimalFloat? (t : Text) : Option (Binary64 × Text) := do
  let (sgn, t) := sign t
  let (whole, t) ← decimalDigits? t
  let (fraction, e, rest) ←
    match t with
    | '.' :: t => do
      let (fraction, t) ← digits? Char.isDigit t
      match t with
      | c :: _ =>
        if c = 'e' ∨ c = 'E' then do
          let (e, rest) ← exponent? t
          pure (fraction, e, rest)
        else pure (fraction, 0, t)
      | [] => pure (fraction, 0, t)
    | t => do
      let (e, rest) ← exponent? t
      pure ([], e, rest)
  let x := Binary64.ofDecimal (sgn = some '-') (Text.ofDigits 10 (whole ++ fraction))
    (e - fraction.length)
  if x = .infinite false then none else return (x, rest)

/-- `inf` and `nan`, with or without a sign. -/
def specialFloat? (t : Text) : Option (Binary64 × Text) :=
  match sign t with
  | (sgn, 'i' :: 'n' :: 'f' :: rest) => some (.infinite (sgn = some '-'), rest)
  | (_, 'n' :: 'a' :: 'n' :: rest) => some (.nan, rest)
  | _ => none

/-- A number of exactly `n` digits within bounds. -/
def fixed? (n low high : Nat) (t : Text) : Option (Nat × Text) :=
  let ds := t.take n
  let value := Text.ofDigits 10 ds
  if ds.length = n ∧ ds.all Char.isDigit ∧ low ≤ value ∧ value ≤ high then some (value, t.drop n)
  else none

def isLeapYear (year : Nat) : Bool := year % 4 = 0 && (year % 100 ≠ 0 || year % 400 = 0)

def daysInMonth (year month : Nat) : Nat :=
  if month = 2 then if isLeapYear year then 29 else 28
  else if month = 4 ∨ month = 6 ∨ month = 9 ∨ month = 11 then 30
  else 31

/-- A day of the calendar; answers what follows it. -/
def date? (t : Text) : Option Text := do
  let (year, t) ← fixed? 4 0 9999 t
  let (month, t) ← fixed? 2 1 12 (← Text.after? ['-'] t)
  let (_, t) ← fixed? 2 1 (daysInMonth year month) (← Text.after? ['-'] t)
  return t

/-- A time of day, with a leap second and a fraction allowed; answers what follows it. -/
def time? (t : Text) : Option Text := do
  let (_, t) ← fixed? 2 0 23 t
  let (_, t) ← fixed? 2 0 59 (← Text.after? [':'] t)
  let (_, t) ← fixed? 2 0 60 (← Text.after? [':'] t)
  match t with
  | '.' :: c :: rest => if c.isDigit then return rest.dropWhile Char.isDigit else return t
  | _ => return t

/-- The offset from universal time, where one is given and well formed. -/
def skipOffset (t : Text) : Option Text :=
  match t with
  | 'Z' :: rest => some rest
  | 'z' :: rest => some rest
  | c :: rest =>
    if c = '+' ∨ c = '-' then do
      let (_, t) ← fixed? 2 0 23 rest
      let (_, t) ← fixed? 2 0 59 (← Text.after? [':'] t)
      return t
    else some t
  | [] => some []

/-- A date, a time, or a date and a time; answers what follows it. A date that no time follows
stands for itself. -/
def moment? (t : Text) : Option Text :=
  match date? t with
  | some rest =>
    match rest with
    | c :: after =>
      if c = 'T' ∨ c = 't' ∨ c = ' ' then
        match time? after with
        | some rest => skipOffset rest
        | none => some (c :: after)
      else some rest
    | [] => some []
  | none => time? t

/-- A moment, a number with a fraction or an exponent, or an integer: the first that fits. -/
def number? (t : Text) : Option (Value × Text) :=
  match moment? t with
  | some rest => some (.moment, rest)
  | none =>
    match (decimalFloat? t).or (specialFloat? t) with
    | some (x, rest) => some (.float x, rest)
    | none => (integer? t).map fun r => (.integer r.1, r.2)

end MismatchLog.Toml
