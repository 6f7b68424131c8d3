import MismatchLog.Proofs.Json.Grammar
import MismatchLog.Proofs.Key.Spelling

/-!
# Reading JSON texts

A reader that goes by the next character, and `value?_of_written`, which says that it finds the
value of whatever follows the grammar. So no text stands for two values (`isDocument_unique`).
-/

namespace MismatchLog.Json

open Text Key

/-! ## Strings -/

def unit? (t : Text) : Option (Nat × Text) :=
  if (t.take 4).length = 4 ∧ (t.take 4).all isHexDigit then some (unitValue (t.take 4), t.drop 4)
  else none

/-- One unit, or two if the first is no character on its own. -/
def unicode? (t : Text) : Option (Char × Text) := do
  let (high, t) ← unit? t
  match character? high with
  | some c => return (c, t)
  | none =>
    let t ← after? ['\\', 'u'] t
    let (low, t) ← unit? t
    let c ← character? (paired high low)
    return (c, t)

def spelledChar? : Text → Option (Char × Text)
  | [] => none
  | ['\\'] => none
  | '\\' :: sign :: t =>
    if sign = 'u' then unicode? t else (escapes.lookup sign).map fun c => (c, t)
  | c :: t => some (c, t)

/-- Reads characters, at most so many, up to the quote that closes a string. -/
def spelledText? : Nat → Text → Option (Text × Text)
  | 0, _ => none
  | n + 1, t =>
    if t.head? = some '"' then some ([], t.tail)
    else do
      let (c, t) ← spelledChar? t
      let (s, t) ← spelledText? n t
      return (c :: s, t)

/-! ## Values -/

def skipSpaces (t : Text) : Text := t.dropWhile isSpace

/-- A character that occurs in numbers. -/
def isNumberSign (c : Char) : Bool := c.isDigit || ['-', '+', '.', 'e', 'E'].contains c

def number? (t : Text) : Option (Value × Text) :=
  if t.takeWhile isNumberSign = [] then none
  else some (.number (t.takeWhile isNumberSign), t.dropWhile isNumberSign)

def word? (t : Text) : Option (Value × Text) :=
  words.findSome? fun w => (after? w.1 t).map fun rest => (w.2, rest)

def item? (value? : Text → Option (Value × Text)) (t : Text) : Option (Value × Text) :=
  (value? (skipSpaces t)).map fun r => (r.1, skipSpaces r.2)

def member? (value? : Text → Option (Value × Text)) (t : Text) :
    Option ((Text × Value) × Text) := do
  let t ← after? ['"'] (skipSpaces t)
  let (name, t) ← spelledText? t.length t
  let t ← after? [':'] (skipSpaces t)
  let (v, t) ← item? value? t
  return ((name, v), t)

/-- Items up to the closing sign, behind the opening one. -/
def list? {α : Type} (close : Char) (make : List α → Value) (item? : Text → Option (α × Text))
    (t : Text) : Option (Value × Text) :=
  if (skipSpaces t).head? = some close then some (make [], (skipSpaces t).tail)
  else (itemsUntil? close item? t.length t).map fun r => (make r.1, r.2)

/-- Reads a value of no more than so many levels. -/
def value? : Nat → Text → Option (Value × Text)
  | 0, _ => none
  | _ + 1, [] => none
  | n + 1, c :: t =>
    if c = '"' then (spelledText? t.length t).map fun r => (.string r.1, r.2)
    else if c = '[' then list? ']' .array (item? (value? n)) t
    else if c = '{' then list? '}' .object (member? (value? n)) t
    else (word? (c :: t)).or (number? (c :: t))

def read? (t : Text) : Option Value :=
  match item? (value? (t.length + 1)) t with
  | some (v, []) => some v
  | _ => none

/-! ## The reader finds what is spelled -/

theorem unit?_append {ds : Text} (h : IsUnit ds) (rest : Text) :
    unit? (ds ++ rest) = some (unitValue ds, rest) := by
  obtain ⟨hlength, hhex⟩ := h
  rw [unit?, List.take_left' hlength, List.drop_left' hlength,
    if_pos ⟨hlength, List.all_eq_true.mpr hhex⟩]

theorem character?_surrogate {n : Nat} (hlow : 0xD800 ≤ n) (hhigh : n < 0xDC00) :
    character? n = none := by
  rw [character?, if_neg]
  unfold Nat.isValidChar
  omega

theorem unicode?_unit {c : Char} {ds : Text} (h : IsUnit ds)
    (hc : character? (unitValue ds) = some c) (rest : Text) :
    unicode? (ds ++ rest) = some (c, rest) := by
  rw [unicode?, unit?_append h]
  simp only [Option.bind_eq_bind, Option.bind_some, hc]
  rfl

theorem unicode?_pair {c : Char} {high low : Text} (hhigh : IsUnit high) (hlow : IsUnit low)
    (hnone : character? (unitValue high) = none)
    (hc : character? (paired (unitValue high) (unitValue low)) = some c) (rest : Text) :
    unicode? (high ++ '\\' :: 'u' :: low ++ rest) = some (c, rest) := by
  have hsecond : after? ['\\', 'u'] ('\\' :: 'u' :: (low ++ rest)) = some (low ++ rest) :=
    after?_eq_some_iff.mpr rfl
  rw [List.append_assoc, List.cons_append, List.cons_append, unicode?, unit?_append hhigh]
  simp only [Option.bind_eq_bind, Option.bind_some, hnone, hsecond]
  rw [unit?_append hlow, Option.bind_some, hc]
  rfl

theorem spelledChar?_plain {c : Char} (hc : c ≠ '\\') (t : Text) :
    spelledChar? (c :: t) = some (c, t) := by
  unfold spelledChar?
  split <;> simp_all

theorem spelledChar?_unit (t : Text) : spelledChar? ('\\' :: 'u' :: t) = unicode? t := by
  rw [spelledChar?, if_pos rfl]

theorem spelledChar?_of_spelled {c : Char} {t : Text} (h : SpelledChar c t) (rest : Text) :
    spelledChar? (t ++ rest) = some (c, rest) := by
  cases h with
  | plain _ hback _ => exact spelledChar?_plain hback rest
  | @escape sign _ hsign =>
    have hne : sign ≠ 'u' := by
      rintro rfl
      cases hsign
    rw [List.cons_append, List.cons_append, List.nil_append, spelledChar?, if_neg hne, hsign]
    rfl
  | unit hunit hchar =>
    rw [List.cons_append, List.cons_append, spelledChar?_unit]
    exact unicode?_unit hunit hchar rest
  | pair hhigh hlow hbetween _ hchar =>
    have hnone := character?_surrogate hbetween.1 hbetween.2
    rw [List.cons_append, List.cons_append, List.cons_append, List.cons_append, spelledChar?_unit]
    exact unicode?_pair hhigh hlow hnone hchar rest

theorem spelledChar_head {c : Char} {t : Text} (h : SpelledChar c t) :
    ∃ d u, t = d :: u ∧ d ≠ '"' := by
  cases h with
  | plain hquote _ _ => exact ⟨_, _, rfl, hquote⟩
  | escape _ => exact ⟨_, _, rfl, by decide⟩
  | unit _ _ => exact ⟨_, _, rfl, by decide⟩
  | pair _ _ _ _ _ => exact ⟨_, _, rfl, by decide⟩

theorem spelledText?_of_spelled {s t : Text} (h : SpelledText s t) {n : Nat} (hn : t.length < n)
    (rest : Text) : spelledText? n (t ++ '"' :: rest) = some (s, rest) := by
  induction h generalizing n with
  | nil =>
    cases n with
    | zero => cases hn
    | succ n => rfl
  | @cons c s t u hchar _ ih =>
    obtain ⟨d, v, rfl, hd⟩ := spelledChar_head hchar
    have hfirst := spelledChar?_of_spelled hchar (u ++ '"' :: rest)
    rw [List.length_append, List.length_cons] at hn
    cases n with
    | zero => cases hn
    | succ n =>
      have hrest := ih (show u.length < n by omega)
      rw [List.append_assoc, spelledText?, hfirst, if_neg (by simpa using hd)]
      simp only [Option.bind_eq_bind, Option.bind_some, hrest]
      rfl

/-- The length of the text is enough. -/
theorem spelledText?_length {s t : Text} (h : SpelledText s t) (rest : Text) :
    spelledText? (t ++ '"' :: rest).length (t ++ '"' :: rest) = some (s, rest) := by
  refine spelledText?_of_spelled h ?_ rest
  rw [List.length_append, List.length_cons]
  omega

/-! ## The reader finds what is written -/

theorem isNumberSign_of_isDigit {c : Char} (hc : c.isDigit = true) : isNumberSign c = true := by
  rw [isNumberSign, hc, Bool.true_or]

theorem isNumberSign_of_isDigits {t : Text} (h : IsDigits t) {c : Char} (hc : c ∈ t) :
    isNumberSign c = true :=
  isNumberSign_of_isDigit (h.2 c hc)

theorem isNumberSign_of_sign {sign : Text} (h : sign ∈ [[], ['+'], ['-']]) {c : Char}
    (hc : c ∈ sign) : isNumberSign c = true := by
  have hall : [[], ['+'], ['-']].all (List.all · isNumberSign) = true := by decide
  exact List.all_eq_true.mp (List.all_eq_true.mp hall sign h) c hc

theorem isNumberSign_of_mem {t : Text} (h : IsNumber t) {c : Char} (hc : c ∈ t) :
    isNumberSign c = true := by
  obtain ⟨hsign, hwhole, hfraction, hexponent⟩ := h
  simp only [List.mem_append] at hc
  rcases hc with ((hc | hc) | hc) | hc
  · refine isNumberSign_of_sign ?_ hc
    rcases List.mem_cons.mp hsign with rfl | hminus
    · exact List.mem_cons_self
    · exact List.mem_cons_of_mem _ (List.mem_cons_of_mem _ hminus)
  · cases hwhole with
    | zero =>
      rw [List.mem_singleton.mp hc]
      decide
    | digits _ hdigits => exact isNumberSign_of_isDigits hdigits hc
  · cases hfraction with
    | absent => cases hc
    | digits hdigits =>
      rcases List.mem_cons.mp hc with rfl | hc
      · decide
      · exact isNumberSign_of_isDigits hdigits hc
  · cases hexponent with
    | absent => cases hc
    | digits hletter hsign hdigits =>
      rcases List.mem_append.mp hc with hc | hc
      · rcases List.mem_cons.mp hc with rfl | hc
        · simp only [List.mem_cons, List.not_mem_nil, or_false] at hletter
          rcases hletter with rfl | rfl <;> decide
        · exact isNumberSign_of_sign hsign hc
      · exact isNumberSign_of_isDigits hdigits hc

/-- A number starts with a digit or the sign below zero. -/
theorem number_head {t : Text} (h : IsNumber t) :
    ∃ c u, t = c :: u ∧ (c = '-' ∨ c.isDigit = true) := by
  obtain ⟨hsign, hwhole, -, -⟩ := h
  simp only [List.mem_cons, List.not_mem_nil, or_false] at hsign
  rcases hsign with rfl | rfl
  · cases hwhole with
    | zero => exact ⟨_, _, rfl, .inr (by decide)⟩
    | digits _ hdigits => exact ⟨_, _, rfl, .inr (hdigits.2 _ List.mem_cons_self)⟩
  · exact ⟨_, _, rfl, .inl rfl⟩

theorem word?_of_mem {v : Value} {t : Text} (h : (t, v) ∈ words) (rest : Text) :
    word? (t ++ rest) = some (v, rest) := by
  simp only [words, List.mem_cons, List.not_mem_nil, or_false, Prod.mk.injEq] at h
  rcases h with ⟨rfl, rfl⟩ | ⟨rfl, rfl⟩ | ⟨rfl, rfl⟩ <;> rfl

theorem word?_eq_none {c : Char} (hc : c ∉ ['n', 't', 'f']) (t : Text) : word? (c :: t) = none := by
  simp only [List.mem_cons, List.not_mem_nil, or_false, not_or] at hc
  simp [word?, words, after?, Ne.symm hc.1, Ne.symm hc.2.1, Ne.symm hc.2.2]

/-- A character that a value can start with. -/
def isOpening (c : Char) : Bool := c.isDigit || ['-', '"', '[', '{', 'n', 't', 'f'].contains c

theorem written_head {v : Value} {t : Text} (h : Written v t) :
    ∃ c u, t = c :: u ∧ isOpening c = true := by
  cases h with
  | word hword =>
    simp only [words, List.mem_cons, List.not_mem_nil, or_false, Prod.mk.injEq] at hword
    rcases hword with ⟨rfl, -⟩ | ⟨rfl, -⟩ | ⟨rfl, -⟩ <;> exact ⟨_, _, rfl, by decide⟩
  | number hnumber =>
    obtain ⟨c, u, rfl, rfl | hdigit⟩ := number_head hnumber
    · exact ⟨_, _, rfl, by decide⟩
    · exact ⟨c, u, rfl, by rw [isOpening, hdigit, Bool.true_or]⟩
  | string _ => exact ⟨_, _, rfl, by decide⟩
  | emptyArray _ => exact ⟨_, _, rfl, by decide⟩
  | array _ _ => exact ⟨_, _, rfl, by decide⟩
  | emptyObject _ => exact ⟨_, _, rfl, by decide⟩
  | object _ _ => exact ⟨_, _, rfl, by decide⟩

theorem isSpace_of_isOpening {c : Char} (hc : isOpening c = true) : isSpace c = false := by
  rw [Bool.eq_false_iff]
  intro hspace
  simp only [isSpace, Bool.or_eq_true, decide_eq_true_eq] at hspace
  rcases hspace with ((rfl | rfl) | rfl) | rfl <;> exact absurd hc (by decide)

theorem stops_of_written {v : Value} {t : Text} (h : Written v t) (rest : Text) :
    Stops isSpace (t ++ rest) := by
  obtain ⟨c, u, rfl, hc⟩ := written_head h
  exact stops_cons (isSpace_of_isOpening hc)

theorem skipSpaces_append (w : Spaces) {t : Text} (ht : Stops isSpace t) :
    skipSpaces (w.text ++ t) = t :=
  dropWhile_run (List.all_eq_true.mp w.blank) ht

theorem isNumberSign_of_isSpace {c : Char} (hc : isSpace c = true) : isNumberSign c = false := by
  simp only [isSpace, Bool.or_eq_true, decide_eq_true_eq] at hc
  rcases hc with ((rfl | rfl) | rfl) | rfl <;> decide

/-- Neither white space nor a part of a number: a text ends there, or a sign follows. -/
structure Ends (rest : Text) : Prop where
  space : Stops isSpace rest
  number : Stops isNumberSign rest

theorem Ends.nil : Ends [] := ⟨nofun, nofun⟩

theorem Ends.cons {c : Char} (hc : c ∈ [',', ':', ']', '}']) (rest : Text) : Ends (c :: rest) := by
  simp only [List.mem_cons, List.not_mem_nil, or_false] at hc
  constructor <;> apply stops_cons <;> rcases hc with rfl | rfl | rfl | rfl <;> decide

section
variable {read : Text → Option (Value × Text)}

/-- A reader finds a value wherever no number goes on. -/
def Finds (read : Text → Option (Value × Text)) (v : Value) (t : Text) : Prop :=
  ∀ rest, Stops isNumberSign rest → read (t ++ rest) = some (v, rest)

theorem item?_written {i : Item} (hi : Written i.value i.text) (hfinds : Finds read i.value i.text)
    {rest : Text} (hrest : Ends rest) : item? read (i.written ++ rest) = some (i.value, rest) := by
  have hnumber : Stops isNumberSign (i.after.text ++ rest) :=
    stops_append (fun c hc => isNumberSign_of_isSpace (List.all_eq_true.mp i.after.blank c hc))
      hrest.number
  rw [item?, Item.written, List.append_assoc, List.append_assoc,
    skipSpaces_append i.before (stops_of_written hi _), hfinds _ hnumber, Option.map_some,
    skipSpaces_append i.after hrest.space]

theorem member?_written {m : Member} (hm : Written m.item.value m.item.text)
    (hfinds : Finds read m.item.value m.item.text) {rest : Text} (hrest : Ends rest) :
    member? read (m.written ++ rest) = some (m.value, rest) := by
  have hwritten : m.written ++ rest = m.before.text ++ (['"'] ++ (m.spelled ++
      '"' :: (m.after.text ++ ([':'] ++ (m.item.written ++ rest))))) := by
    simp [Member.written]
  have hquote (t : Text) : after? ['"'] (['"'] ++ t) = some t := after?_eq_some_iff.mpr rfl
  have hcolon (t : Text) : after? [':'] ([':'] ++ t) = some t := after?_eq_some_iff.mpr rfl
  have hstops (t : Text) : Stops isSpace (['"'] ++ t) := stops_cons (by decide)
  have hstops' (t : Text) : Stops isSpace ([':'] ++ t) := stops_cons (by decide)
  rw [member?, hwritten, skipSpaces_append m.before (hstops _), hquote]
  simp only [Option.bind_eq_bind, Option.bind_some, spelledText?_length m.isName,
    skipSpaces_append m.after (hstops' _), hcolon, item?_written hm hfinds hrest]
  rfl

end

/-- Items are read one by one. None of them can be taken for the closing sign. -/
theorem list?_commas {α β : Type} {close : Char} {make : List α → Value}
    {read : Text → Option (α × Text)} {value : β → α} {text : β → Text}
    (hclose : close ∈ [']', '}']) {parts : List β} (hne : parts ≠ [])
    (hhead : ∀ p ∈ parts, ∀ rest, (skipSpaces (text p ++ rest)).head? ≠ some close)
    (hread : ∀ p ∈ parts, ∀ rest, Ends rest → read (text p ++ rest) = some (value p, rest))
    (rest : Text) : list? close make read (commas (parts.map text) ++ close :: rest) =
      some (make (parts.map value), rest) := by
  have hitems : itemsUntil? close read (commas (parts.map text) ++ close :: rest).length
      (commas (parts.map text) ++ close :: rest) = some (parts.map value, rest) := by
    have hlength := length_le_commas (parts.map text)
    rw [List.length_map] at hlength
    refine itemsUntil?_commas ?_ hne ?_ ?_ rest
    · rintro rfl
      exact absurd hclose (by decide)
    · intro p hp c after hc
      refine hread p hp _ (Ends.cons ?_ after)
      rcases hc with rfl | rfl
      · decide
      · exact List.mem_cons_of_mem _ (List.mem_cons_of_mem _ hclose)
    · rw [List.length_append, List.length_cons]
      omega
  have hopen : (skipSpaces (commas (parts.map text) ++ close :: rest)).head? ≠ some close := by
    cases parts with
    | nil => exact absurd rfl hne
    | cons p parts =>
      obtain ⟨t, ht⟩ := exists_commas_cons (text p) (parts.map text)
      rw [List.map_cons, ht, List.append_assoc]
      exact hhead p List.mem_cons_self _
  rw [list?, if_neg hopen, hitems, Option.map_some]

theorem list?_empty {α : Type} {close : Char} {make : List α → Value}
    {read : Text → Option (α × Text)} (hclose : close ∈ [']', '}']) (w : Spaces)
    (rest : Text) : list? close make read (w.text ++ close :: rest) = some (make [], rest) := by
  have hends : Ends (close :: rest) :=
    Ends.cons (List.mem_cons_of_mem _ (List.mem_cons_of_mem _ hclose)) rest
  rw [list?, skipSpaces_append w hends.space, if_pos List.head?_cons, List.tail_cons]

theorem head?_item {i : Item} (hi : Written i.value i.text) (rest : Text) :
    (skipSpaces (i.written ++ rest)).head? ≠ some ']' := by
  rw [Item.written, List.append_assoc, List.append_assoc,
    skipSpaces_append i.before (stops_of_written hi _)]
  obtain ⟨c, u, htext, hc⟩ := written_head hi
  rw [htext, List.cons_append, List.head?_cons]
  rintro ⟨⟩
  exact absurd hc (by decide)

theorem head?_member (m : Member) (rest : Text) :
    (skipSpaces (m.written ++ rest)).head? ≠ some '}' := by
  have hstops (t : Text) : Stops isSpace ('"' :: t) := stops_cons (by decide)
  rw [Member.written, List.append_assoc, List.append_assoc, List.append_assoc, List.cons_append,
    skipSpaces_append m.before (hstops _), List.head?_cons]
  decide

theorem length_text_le (i : Item) : i.text.length ≤ i.written.length := by
  rw [Item.written, List.length_append, List.length_append]
  omega

theorem length_item_le (m : Member) : m.item.text.length ≤ m.written.length := by
  have hitem := length_text_le m.item
  rw [Member.written, List.length_append, List.length_cons]
  omega

theorem number?_of_isNumber {t : Text} (h : IsNumber t) {rest : Text}
    (hrest : Stops isNumberSign rest) : number? (t ++ rest) = some (.number t, rest) := by
  have hsigns : ∀ c ∈ t, isNumberSign c = true := fun _ => isNumberSign_of_mem h
  obtain ⟨c, u, htext, -⟩ := number_head h
  have hne : t ≠ [] := htext ▸ List.cons_ne_nil c u
  rw [number?, takeWhile_run hsigns hrest, dropWhile_run hsigns hrest, if_neg hne]

/-- Neither a quote nor a bracket, so the reader looks for a word or a number. -/
theorem value?_cons {c : Char} (hc : c ∉ ['"', '[', '{']) (n : Nat) (t : Text) :
    value? (n + 1) (c :: t) = (word? (c :: t)).or (number? (c :: t)) := by
  simp only [List.mem_cons, List.not_mem_nil, or_false, not_or] at hc
  rw [value?, if_neg hc.1, if_neg hc.2.1, if_neg hc.2.2]

theorem value?_word {v : Value} {t : Text} (h : (t, v) ∈ words) (n : Nat) :
    Finds (value? (n + 1)) v t := by
  intro rest _
  have hword := word?_of_mem h rest
  have hhead : ∃ c u, t = c :: u ∧ c ∉ ['"', '[', '{'] := by
    simp only [words, List.mem_cons, List.not_mem_nil, or_false, Prod.mk.injEq] at h
    rcases h with ⟨rfl, -⟩ | ⟨rfl, -⟩ | ⟨rfl, -⟩ <;> exact ⟨_, _, rfl, by decide⟩
  obtain ⟨c, u, rfl, hc⟩ := hhead
  rw [List.cons_append] at hword ⊢
  rw [value?_cons hc, hword, Option.some_or]

theorem value?_number {t : Text} (h : IsNumber t) (n : Nat) :
    Finds (value? (n + 1)) (.number t) t := by
  intro rest hrest
  have hnumber := number?_of_isNumber h hrest
  obtain ⟨c, u, rfl, hc⟩ := number_head h
  have hsign : c ∉ ['"', '[', '{'] := by
    intro hmem
    simp only [List.mem_cons, List.not_mem_nil, or_false] at hmem
    rcases hmem with rfl | rfl | rfl <;> exact absurd hc (by decide)
  have hletter : c ∉ ['n', 't', 'f'] := by
    intro hmem
    simp only [List.mem_cons, List.not_mem_nil, or_false] at hmem
    rcases hmem with rfl | rfl | rfl <;> exact absurd hc (by decide)
  rw [List.cons_append] at hnumber ⊢
  rw [value?_cons hsign, word?_eq_none hletter, Option.none_or, hnumber]

theorem value?_string {s t : Text} (h : SpelledText s t) (n : Nat) :
    Finds (value? (n + 1)) (.string s) ('"' :: t ++ ['"']) := by
  intro rest _
  rw [List.append_assoc, List.cons_append, List.singleton_append, value?, if_pos rfl,
    spelledText?_length h, Option.map_some]

theorem value?_array (n : Nat) (t rest : Text) :
    value? (n + 1) ('[' :: t ++ [']'] ++ rest) =
      list? ']' .array (item? (value? n)) (t ++ ']' :: rest) := by
  rw [List.append_assoc, List.cons_append, List.singleton_append, value?, if_neg (by decide),
    if_pos rfl]

theorem value?_object (n : Nat) (t rest : Text) :
    value? (n + 1) ('{' :: t ++ ['}'] ++ rest) =
      list? '}' .object (member? (value? n)) (t ++ '}' :: rest) := by
  rw [List.append_assoc, List.cons_append, List.singleton_append, value?, if_neg (by decide),
    if_neg (by decide), if_pos rfl]

theorem length_lt_of_mem {part : Text} {parts : List Text} (h : part ∈ parts) {first last : Char}
    {n : Nat} (hn : (first :: commas parts ++ [last]).length ≤ n) : part.length < n := by
  have hle := length_le_length_commas h
  rw [List.length_append, List.length_cons] at hn
  omega

/-- The reader finds every value, given more levels than the text has characters. -/
theorem value?_of_written {v : Value} {t : Text} (h : Written v t) {n : Nat} (hn : t.length ≤ n) :
    Finds (value? (n + 1)) v t := by
  induction h generalizing n with
  | word hword => exact value?_word hword n
  | number hnumber => exact value?_number hnumber n
  | string hspelled => exact value?_string hspelled n
  | emptyArray w =>
    intro rest _
    rw [value?_array, list?_empty (by decide) w]
  | @array items hne hitems ih =>
    intro rest _
    rw [value?_array]
    refine list?_commas (by decide) hne (fun i hi => head?_item (hitems i hi)) ?_ rest
    intro i hi after hafter
    have hlength : i.text.length < n :=
      Nat.lt_of_le_of_lt (length_text_le i) (length_lt_of_mem (List.mem_map_of_mem hi) hn)
    cases n with
    | zero => cases hlength
    | succ n => exact item?_written (hitems i hi) (ih i hi (Nat.le_of_lt_succ hlength)) hafter
  | emptyObject w =>
    intro rest _
    rw [value?_object, list?_empty (by decide) w]
  | @object members hne hmembers ih =>
    intro rest _
    rw [value?_object]
    refine list?_commas (by decide) hne (fun m _ => head?_member m) ?_ rest
    intro m hm after hafter
    have hlength : m.item.text.length < n :=
      Nat.lt_of_le_of_lt (length_item_le m) (length_lt_of_mem (List.mem_map_of_mem hm) hn)
    cases n with
    | zero => cases hlength
    | succ n => exact member?_written (hmembers m hm) (ih m hm (Nat.le_of_lt_succ hlength)) hafter

theorem read?_of_isDocument {v : Value} {t : Text} (h : IsDocument v t) : read? t = some v := by
  obtain ⟨i, hi⟩ := h
  have hitem := item?_written hi (value?_of_written hi (length_text_le i)) Ends.nil
  rw [List.append_nil] at hitem
  rw [read?, hitem]

/-- White space is skipped, and a letter may be escaped for no reason. -/
example : read? "[ 1.5e3 , \"\\u0061\\n\" ]".toList =
    some (.array [.number "1.5e3".toList, .string "a\n".toList]) := by rfl

theorem isDocument_unique {v v' : Value} {t : Text} (h : IsDocument v t) (h' : IsDocument v' t) :
    v = v' := by
  have heq := read?_of_isDocument h
  rw [read?_of_isDocument h'] at heq
  exact (Option.some.inj heq).symm

end MismatchLog.Json
