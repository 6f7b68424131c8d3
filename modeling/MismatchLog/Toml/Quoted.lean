import MismatchLog.Toml.Blank

/-!
Quoted strings. In double quotes a backslash begins an escape, in single quotes it is a character
like any other. Three quotes allow lines to break inside the string; each break is read as a line
feed.
-/

namespace MismatchLog.Toml

/-- An escape of which a part was read. -/
inductive Escape where
  /-- After the backslash. -/
  | letter
  /-- After the letter of a numbered escape: the digits still owed and their value so far. -/
  | digits (owed value : Nat)
  deriving DecidableEq, Repr

/-- Reads on in an escape: it goes on, or it ends with the character that it stands for. -/
def Escape.step : Escape → Char → Option (Escape ⊕ Char)
  | .letter, c =>
    if c = 'b' then some (.inr '\x08')
    else if c = 't' then some (.inr '\t')
    else if c = 'n' then some (.inr '\n')
    else if c = 'f' then some (.inr '\x0c')
    else if c = 'r' then some (.inr '\r')
    else if c = '"' then some (.inr '"')
    else if c = '\\' then some (.inr '\\')
    else if c = 'u' then some (.inl (.digits 4 0))
    else if c = 'U' then some (.inl (.digits 8 0))
    else none
  | .digits owed value, c => do
    let d ← Text.hexValue? c
    let value := 16 * value + d
    if owed ≤ 1 then return .inr (← Text.character? value)
    return .inl (.digits (owed - 1) value)

/-- Puts a character in front of what was read. -/
def consTo (c : Char) (r : Text × Text) : Text × Text := (c :: r.1, r.2)

/-- The rest of a string in double quotes, and what follows it. -/
def basicBody (escape : Option Escape) : Text → Option (Text × Text)
  | [] => none
  | c :: rest =>
    match escape with
    | some e =>
      match e.step c with
      | some (.inl e) => basicBody (some e) rest
      | some (.inr made) => (basicBody none rest).map (consTo made)
      | none => none
    | none =>
      if c = '"' then some ([], rest)
      else if c = '\\' then basicBody (some .letter) rest
      else if isPlain c then (basicBody none rest).map (consTo c)
      else none

/-- The rest of a string in single quotes, and what follows it. -/
def literalBody : Text → Option (Text × Text)
  | [] => none
  | c :: rest =>
    if c = '\'' then some ([], rest)
    else if isPlain c then (literalBody rest).map (consTo c)
    else none

/-- Where the reading of a string with lines stands. -/
inductive Place where
  | plain
  | escape (e : Escape)
  /-- After a backslash and blanks, before the end of the line. -/
  | lineEnd
  /-- After a backslash at the end of a line, where blanks and ends of lines are skipped. -/
  | margin
  deriving DecidableEq, Repr

/-- A backslash may stand before blanks and the end of a line, and is then no escape. -/
def Place.isBeforeLineEnd : Place → Bool
  | .escape .letter => true
  | .lineEnd => true
  | _ => false

/-- The end of a string in three quotes: the quotes before them that still belong to the string,
and what follows. Of a longer run the first five count. -/
def closing? (quote : Char) (t : Text) : Option (Text × Text) :=
  let run := min (t.takeWhile (· = quote)).length 5
  if 3 ≤ run then some (List.replicate (run - 3) quote, t.drop run) else none

/-- The rest of a string in three quotes, and what follows it. One or two quotes are part of the
string. -/
def linesBody (quote : Char) (place : Place) : Text → Option (Text × Text)
  | [] => none
  | '\r' :: '\n' :: rest =>
    if place = .margin || place.isBeforeLineEnd then linesBody quote .margin rest
    else if place = .plain then (linesBody quote .plain rest).map (consTo '\n')
    else none
  | c :: rest =>
    if c = '\n' && (place = .margin || place.isBeforeLineEnd) then linesBody quote .margin rest
    else if isBlank c && place.isBeforeLineEnd then linesBody quote .lineEnd rest
    else if isBlank c && place = .margin then linesBody quote .margin rest
    else
      match place with
      | .escape e =>
        match e.step c with
        | some (.inl e) => linesBody quote (.escape e) rest
        | some (.inr made) => (linesBody quote .plain rest).map (consTo made)
        | none => none
      | .lineEnd => none
      | .plain | .margin =>
        match closing? quote (c :: rest) with
        | some r => some r
        | none =>
          if c = '\\' && quote = '"' then linesBody quote (.escape .letter) rest
          else if c = '\n' || isPlain c then (linesBody quote .plain rest).map (consTo c)
          else none

/-- The end of a line directly after three quotes is not part of the string. -/
def skipNewline (t : Text) : Text := (newline? t).getD t

/-- A string of any of the four kinds. -/
def string? : Text → Option (Text × Text)
  | '"' :: '"' :: '"' :: rest => linesBody '"' .plain (skipNewline rest)
  | '"' :: rest => basicBody none rest
  | '\'' :: '\'' :: '\'' :: rest => linesBody '\'' .plain (skipNewline rest)
  | '\'' :: rest => literalBody rest
  | _ => none

end MismatchLog.Toml
