import MismatchLog.Event.Pattern
import MismatchLog.Event.Threshold

/-!
Directives: a level for all events, or for those of a target, of a span or with a field, written
`target[span{field=pattern}]=level`. Every part may be left out, but not all of them.

The signs of a directive are found in its text without the blanks around it, and its parts are then
cut out of the text with them, at the same distances from its start. So blanks in front shift every
part to the left, and a cut can fall inside a character.
-/

namespace MismatchLog.Event

/-- A field that an event must have, and a pattern for its value. -/
structure Field where
  name : Text
  pattern : Option Text
  deriving DecidableEq, Repr

namespace Field

/-- Decimal digits, perhaps with a point, perhaps with an exponent; or a word for a number that is
none. -/
def isUnsigned (t : Text) : Bool :=
  let whole := t.takeWhile Char.isDigit
  let afterWhole := t.dropWhile Char.isDigit
  let hasPoint := afterWhole.head? = some '.'
  let fraction := if hasPoint then (afterWhole.drop 1).takeWhile Char.isDigit else []
  let rest := if hasPoint then (afterWhole.drop 1).dropWhile Char.isDigit else afterWhole
  let word := Text.lower t
  word = "inf".toList || word = "infinity".toList || word = "nan".toList ||
    (whole ++ fraction ≠ [] && match rest with
      | [] => true
      | e :: sign :: ds =>
        (e = 'e' || e = 'E') &&
          (if sign = '+' || sign = '-' then ds ≠ [] && ds.all Char.isDigit
            else sign.isDigit && ds.all Char.isDigit)
      | _ => false)

def isNumber : Text → Bool
  | '+' :: t => isUnsigned t
  | '-' :: t => isUnsigned t
  | t => isUnsigned t

/-- Reads a name, or a name, an equals sign and a pattern. A number is always a pattern. -/
def ofText? (t : Text) : Option Field :=
  match Text.cut '=' t with
  | name :: pattern :: _ =>
    if isNumber pattern || Pattern.isWellFormed pattern then some ⟨name, some pattern⟩ else none
  | _ => some ⟨t, none⟩

end Field

structure Directive where
  target : Option Text
  span : Option Text
  field : Option Field
  threshold : Threshold
  deriving DecidableEq, Repr

namespace Directive

/-- Why a text gives no directive. -/
inductive Fault where
  | unreadable
  /-- A cut would fall inside a character. -/
  | torn
  deriving DecidableEq, Repr

/-- Where the reading stands, with the place at which the part being read starts. -/
inductive Place where
  | start
  /-- In a level or a target. -/
  | name
  | span (start : Nat)
  | field (start : Nat)
  | fieldEnd
  | spanEnd
  | level (start : Nat)
  deriving DecidableEq, Repr

/-- A directive of which some parts were read. -/
structure Draft where
  place : Place
  target : Option Text
  span : Option Text
  field : Option Field

def Draft.empty : Draft := ⟨.start, none, none, none⟩

/-- What is read of a directive is either there or faulty. -/
def orFault (fault : Fault) : Option α → Except Fault α
  | some a => .ok a
  | none => .error fault

def isFirst (c : Char) : Bool := Text.isAlphanumeric c || c = '-' || c = ':' || c = '_'

/-- Reads the character at a place. -/
def step (t : Text) (d : Draft) (i : Nat) (c : Char) : Except Fault Draft :=
  let cut (start : Nat) : Except Fault Text := orFault .torn (Text.slice? start i t)
  match d.place with
  | .start =>
    if c = '[' then .ok { d with place := .span (i + 1) }
    else if isFirst c then .ok { d with place := .name }
    else .error .unreadable
  | .name =>
    if c = '=' then do return { d with target := some (← cut 0), place := .level (i + 1) }
    else if c = '[' then do return { d with target := some (← cut 0), place := .span (i + 1) }
    else .ok d
  | .span start =>
    if c = ']' then do return { d with span := some (← cut start), place := .spanEnd }
    else if c = '\x7b' then do
      let name ← cut start
      return { d with span := if name = [] then none else some name, place := .field (i + 1) }
    else .ok d
  | .field start =>
    if c = '\x7d' then do
      let text ← cut start
      if text = [] then throw .unreadable
      let field ← orFault .unreadable (Field.ofText? text)
      return { d with field := some field, place := .fieldEnd }
    else .ok d
  | .fieldEnd => if c = ']' then .ok { d with place := .spanEnd } else .error .unreadable
  | .spanEnd => if c = '=' then .ok { d with place := .level (i + 1) } else .error .unreadable
  | .level _ => .ok d

/-- The directive at the end of its text. A target alone lets everything through. -/
def finish (t : Text) (d : Draft) : Except Fault Directive :=
  match d.place with
  | .name =>
    match Threshold.ofName? t with
    | some threshold => .ok ⟨none, d.span, d.field, threshold⟩
    | none => .ok ⟨some t, d.span, d.field, some .trace⟩
  | .level start => do
    let name ← orFault .torn (Text.dropBytes? start t)
    if name = [] then return ⟨d.target, d.span, d.field, some .trace⟩
    return ⟨d.target, d.span, d.field, ← orFault .unreadable (Threshold.ofName? name)⟩
  | .spanEnd => .ok ⟨d.target, d.span, d.field, some .trace⟩
  | _ => .error .unreadable

/-- Reads on from a place. -/
def readFrom (t : Text) (d : Draft) (i : Nat) : Text → Except Fault Directive
  | [] => finish t d
  | c :: rest => do readFrom t (← step t d i c) (i + c.utf8Size) rest

/-- Reads one directive. -/
def ofText (t : Text) : Except Fault Directive := readFrom t .empty 0 (Text.trim t)

/-- A directive about a span, or about the value of a field, concerns spans only, and there are
none. -/
def concernsEvents (d : Directive) : Bool :=
  d.span.isNone && match d.field with
    | none => true
    | some f => f.pattern.isNone

/-- How much of a target a directive names. -/
def reach (d : Directive) : Nat :=
  match d.target with
  | none => 0
  | some name => name.length + 1

/-- The order of fields: no field first, then by name. -/
def fieldAtMost : Option Field → Option Field → Bool
  | none, _ => true
  | some _, none => false
  | some f, some g => Text.atMost f.name g.name

/-- Of two directives that fit an event the second decides: it names more of the target, or as much
and its field comes no earlier. -/
def yieldsTo (d e : Directive) : Bool :=
  d.reach < e.reach || (d.reach = e.reach && fieldAtMost d.field e.field)

end Directive
end MismatchLog.Event
