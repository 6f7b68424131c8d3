import MismatchLog.Json
import MismatchLog.Proofs.Text.Separated

/-!
# The grammar of JSON texts

What a JSON text is and which value it stands for, apart from the writer and from any reader: white
space may stand around every sign, characters of a string may be escaped whether or not they have to
be, and numbers have a fraction and an exponent.

* `Written`: a text is a written form of a value, without white space around it;
* `IsDocument`: the same with white space around it.

A string is made of characters, so an escaped surrogate stands for nothing on its own.
-/

namespace MismatchLog.Json

open Text

/-- The value of any JSON text. A number is kept as it is spelled. -/
inductive Value where
  | null
  | boolean (b : Bool)
  | number (spelling : Text)
  | string (t : Text)
  | array (items : List Value)
  | object (members : List (Text × Value))

/-! ## White space -/

def isSpace (c : Char) : Bool := c = ' ' || c = '\t' || c = '\n' || c = '\r'

structure Spaces where
  text : Text
  blank : text.all isSpace = true

def Spaces.none : Spaces := ⟨[], rfl⟩

/-! ## Numbers -/

def IsDigits (t : Text) : Prop := t ≠ [] ∧ ∀ c ∈ t, c.isDigit = true

/-- No leading zero, unless it is the only digit. -/
inductive IsWhole : Text → Prop
  | zero : IsWhole ['0']
  | digits {c : Char} {t : Text} : c ≠ '0' → IsDigits (c :: t) → IsWhole (c :: t)

inductive IsFraction : Text → Prop
  | absent : IsFraction []
  | digits {t : Text} : IsDigits t → IsFraction ('.' :: t)

inductive IsExponent : Text → Prop
  | absent : IsExponent []
  | digits {letter : Char} {sign t : Text} : letter ∈ ['e', 'E'] → sign ∈ [[], ['+'], ['-']] →
      IsDigits t → IsExponent (letter :: sign ++ t)

inductive IsNumber : Text → Prop
  | parts {sign whole fraction exponent : Text} : sign ∈ [[], ['-']] → IsWhole whole →
      IsFraction fraction → IsExponent exponent →
      IsNumber (sign ++ whole ++ fraction ++ exponent)

/-! ## Strings -/

/-- The letters and signs that stand for a character behind a backslash. -/
def escapes : List (Char × Char) :=
  [('"', '"'), ('\\', '\\'), ('/', '/'), ('b', '\x08'), ('f', '\x0c'), ('n', '\n'), ('r', '\r'),
    ('t', '\t')]

/-- Four hexadecimal digits. -/
def IsUnit (ds : Text) : Prop := ds.length = 4 ∧ ∀ c ∈ ds, isHexDigit c = true

def unitValue (ds : Text) : Nat := ofDigits 16 ds

/-- The number that a high and a low surrogate stand for together. -/
def paired (high low : Nat) : Nat := 0x10000 + 0x400 * (high - 0xD800) + (low - 0xDC00)

inductive SpelledChar : Char → Text → Prop
  | plain {c : Char} : c ≠ '"' → c ≠ '\\' → 0x20 ≤ c.toNat → SpelledChar c [c]
  | escape {sign c : Char} : escapes.lookup sign = some c → SpelledChar c ['\\', sign]
  | unit {c : Char} {ds : Text} : IsUnit ds → character? (unitValue ds) = some c →
      SpelledChar c ('\\' :: 'u' :: ds)
  | pair {c : Char} {high low : Text} : IsUnit high → IsUnit low →
      0xD800 ≤ unitValue high ∧ unitValue high < 0xDC00 →
      0xDC00 ≤ unitValue low ∧ unitValue low < 0xE000 →
      character? (paired (unitValue high) (unitValue low)) = some c →
      SpelledChar c ('\\' :: 'u' :: high ++ '\\' :: 'u' :: low)

/-- A string between its quotes. -/
inductive SpelledText : Text → Text → Prop
  | nil : SpelledText [] []
  | cons {c : Char} {s t u : Text} : SpelledChar c t → SpelledText s u →
      SpelledText (c :: s) (t ++ u)

/-! ## Values -/

/-- A value with a text for it and the white space around that. -/
structure Item where
  before : Spaces
  value : Value
  text : Text
  after : Spaces

def Item.written (i : Item) : Text := i.before.text ++ i.text ++ i.after.text

/-- A name with a spelling of it and the white space around that, and the value it names. -/
structure Member where
  before : Spaces
  name : Text
  spelled : Text
  after : Spaces
  item : Item
  isName : SpelledText name spelled

def Member.value (m : Member) : Text × Value := (m.name, m.item.value)

def Member.written (m : Member) : Text :=
  m.before.text ++ '"' :: m.spelled ++ '"' :: m.after.text ++ ':' :: m.item.written

def words : List (Text × Value) :=
  [(['n', 'u', 'l', 'l'], .null), (['t', 'r', 'u', 'e'], .boolean true),
    (['f', 'a', 'l', 's', 'e'], .boolean false)]

inductive Written : Value → Text → Prop
  | word {v : Value} {t : Text} : (t, v) ∈ words → Written v t
  | number {t : Text} : IsNumber t → Written (.number t) t
  | string {s t : Text} : SpelledText s t → Written (.string s) ('"' :: t ++ ['"'])
  | emptyArray (w : Spaces) : Written (.array []) ('[' :: w.text ++ [']'])
  | array {items : List Item} : items ≠ [] → (∀ i ∈ items, Written i.value i.text) →
      Written (.array (items.map Item.value)) ('[' :: commas (items.map Item.written) ++ [']'])
  | emptyObject (w : Spaces) : Written (.object []) ('{' :: w.text ++ ['}'])
  | object {members : List Member} : members ≠ [] →
      (∀ m ∈ members, Written m.item.value m.item.text) →
      Written (.object (members.map Member.value))
        ('{' :: commas (members.map Member.written) ++ ['}'])

/-- A text holds a value and nothing else but white space. -/
inductive IsDocument : Value → Text → Prop
  | item (i : Item) : Written i.value i.text → IsDocument i.value i.written

end MismatchLog.Json
