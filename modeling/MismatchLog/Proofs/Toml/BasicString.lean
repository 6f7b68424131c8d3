import MismatchLog.Toml.Quoted

/-!
# Strings in double quotes

The grammar of a string in double quotes, apart from the reader: `Quoted`, whichever of its
characters are escaped and how. `quoted` is one way to write a text, with no more escapes than
needed.

* `string?_quoted`: however a string is written, it is read back, up to its closing quote;
* `quoted_quoted`: every text can be written.
-/

namespace MismatchLog.Toml

open Text (hexValue? isHexDigit ofDigits character?)

/-- The letters and signs that stand for a character behind a backslash. -/
def escapes : List (Char × Char) :=
  [('b', '\x08'), ('t', '\t'), ('n', '\n'), ('f', '\x0c'), ('r', '\r'), ('"', '"'), ('\\', '\\')]

/-- The letters that announce digits, with the number of digits behind them. -/
def numbered : List (Char × Nat) := [('u', 4), ('U', 8)]

inductive QuotedChar : Char → Text → Prop
  | plain {c : Char} : isPlain c = true → c ≠ '"' → c ≠ '\\' → QuotedChar c [c]
  | escape {sign c : Char} : (sign, c) ∈ escapes → QuotedChar c ['\\', sign]
  | number {letter c : Char} {ds : Text} : (letter, ds.length) ∈ numbered →
      (∀ d ∈ ds, isHexDigit d = true) → character? (ofDigits 16 ds) = some c →
      QuotedChar c ('\\' :: letter :: ds)

/-- A text between its quotes. -/
inductive QuotedText : Text → Text → Prop
  | nil : QuotedText [] []
  | cons {c : Char} {s t u : Text} : QuotedChar c t → QuotedText s u → QuotedText (c :: s) (t ++ u)

/-- A text with its quotes. -/
inductive Quoted (s : Text) : Text → Prop
  | mk {t : Text} : QuotedText s t → Quoted s ('"' :: t ++ ['"'])

/-! ## Reading back -/

theorem basicBody_escape {sign c : Char} (h : (sign, c) ∈ escapes) (rest : Text) :
    basicBody none ('\\' :: sign :: rest) = (basicBody none rest).map (consTo c) := by
  simp only [escapes, List.mem_cons, List.not_mem_nil, or_false, Prod.mk.injEq] at h
  rcases h with ⟨rfl, rfl⟩ | ⟨rfl, rfl⟩ | ⟨rfl, rfl⟩ | ⟨rfl, rfl⟩ | ⟨rfl, rfl⟩ | ⟨rfl, rfl⟩ |
    ⟨rfl, rfl⟩ <;> rfl

/-- The digits are read one by one, the value so far in front. -/
theorem basicBody_digits {ds : Text} (hne : ds ≠ []) (hhex : ∀ d ∈ ds, isHexDigit d = true)
    (value : Nat) {c : Char}
    (hc : character? (ds.foldl (fun n d => 16 * n + (hexValue? d).getD 0) value) = some c)
    (rest : Text) : basicBody (some (.digits ds.length value)) (ds ++ rest) =
      (basicBody none rest).map (consTo c) := by
  induction ds generalizing value with
  | nil => exact absurd rfl hne
  | cons d ds ih =>
    obtain ⟨n, hn⟩ := Option.isSome_iff_exists.mp (hhex d List.mem_cons_self)
    rw [List.foldl_cons, hn, Option.getD_some] at hc
    rw [List.cons_append, basicBody]
    cases ds with
    | nil =>
      rw [List.foldl_nil] at hc
      simp [Escape.step, hn, hc]
    | cons e ds =>
      have hstep : Escape.step (.digits (d :: e :: ds).length value) d =
          some (.inl (.digits (e :: ds).length (16 * value + n))) := by
        simp [Escape.step, hn]
      rw [hstep]
      exact ih (List.cons_ne_nil e ds) (fun f hf => hhex f (List.mem_cons_of_mem d hf)) _ hc

theorem basicBody_quotedChar {c : Char} {t : Text} (h : QuotedChar c t) (rest : Text) :
    basicBody none (t ++ rest) = (basicBody none rest).map (consTo c) := by
  cases h with
  | plain hplain hquote hback =>
    rw [List.singleton_append, basicBody, if_neg hquote, if_neg hback, if_pos hplain]
  | escape hsign => exact basicBody_escape hsign rest
  | @number letter _ ds hletter hhex hc =>
    have hstep : Escape.step .letter letter = some (.inl (.digits ds.length 0)) := by
      simp only [numbered, List.mem_cons, List.not_mem_nil, or_false, Prod.mk.injEq] at hletter
      rcases hletter with ⟨rfl, hlength⟩ | ⟨rfl, hlength⟩ <;> rw [hlength] <;> rfl
    have hne : ds ≠ [] := by
      rintro rfl
      exact absurd hletter (by simp [numbered])
    rw [List.cons_append, List.cons_append, basicBody, if_neg (by decide), if_pos rfl, basicBody,
      hstep]
    exact basicBody_digits hne hhex 0 hc rest

theorem basicBody_quotedText {s t : Text} (h : QuotedText s t) (rest : Text) :
    basicBody none (t ++ '"' :: rest) = some (s, rest) := by
  induction h with
  | nil => rfl
  | cons hchar _ ih =>
    rw [List.append_assoc, basicBody_quotedChar hchar, ih]
    rfl

theorem quotedText_head {s t : Text} (h : QuotedText s t) : ∀ c ∈ t.head?, c ≠ '"' := by
  cases h with
  | nil => exact nofun
  | cons hchar _ =>
    intro d hd
    cases hchar with
    | plain _ hquote _ =>
      obtain rfl := Option.some.inj hd
      exact hquote
    | escape _ =>
      obtain rfl := Option.some.inj hd
      decide
    | number _ _ _ =>
      obtain rfl := Option.some.inj hd
      decide

/-- A quoted string is read to its end, unless a quote follows an empty one. -/
theorem string?_quoted {s q : Text} (h : Quoted s q) {rest : Text} (hrest : rest.head? ≠ some '"') :
    string? (q ++ rest) = some (s, rest) := by
  obtain ⟨hs⟩ := h
  rename_i t
  have hbody := basicBody_quotedText hs rest
  rw [List.append_assoc, List.cons_append, List.singleton_append]
  cases t with
  | nil =>
    cases rest with
    | nil => exact hbody
    | cons c rest =>
      have hc : c ≠ '"' := by simpa using hrest
      rw [List.nil_append, string?]
      · exact hbody
      · simpa using hc
  | cons c t =>
    have hc : c ≠ '"' := quotedText_head hs c rfl
    rw [List.cons_append, string?]
    · exact hbody
    · simp [hc]

/-- A string starts with a quote of either kind. -/
theorem string?_none {c : Char} (hdouble : c ≠ '"') (hsingle : c ≠ '\'') (t : Text) :
    string? (c :: t) = none := by
  unfold string?
  split <;> simp_all

/-! ## Writing -/

/-- Escapes a quote and a backslash by a backslash, and a control by its number. -/
def escaped (c : Char) : Text :=
  if c = '"' ∨ c = '\\' then ['\\', c]
  else if c.toNat < 0x20 ∨ c.toNat = 0x7F then
    ['\\', 'u', '0', '0', (c.toNat / 16).digitChar, (c.toNat % 16).digitChar]
  else [c]

/-- A text in double quotes. -/
def quoted (s : Text) : Text := '"' :: s.flatMap escaped ++ ['"']

theorem hexValue?_digitChar : ∀ n < 16, hexValue? n.digitChar = some n := by decide

theorem quotedChar_escaped (c : Char) : QuotedChar c (escaped c) := by
  unfold escaped
  split
  · rename_i h
    rcases h with rfl | rfl <;> exact .escape (by decide)
  · rename_i hsign
    rw [not_or] at hsign
    split
    · rename_i hcontrol
      have hhigh : hexValue? (c.toNat / 16).digitChar = some (c.toNat / 16) :=
        hexValue?_digitChar _ (by omega)
      have hlow : hexValue? (c.toNat % 16).digitChar = some (c.toNat % 16) :=
        hexValue?_digitChar _ (by omega)
      have hzero : hexValue? '0' = some 0 := rfl
      have hvalue : ofDigits 16 ['0', '0', (c.toNat / 16).digitChar, (c.toNat % 16).digitChar] =
          c.toNat := by
        simp only [ofDigits, List.foldl_cons, List.foldl_nil, hhigh, hlow, hzero, Option.getD_some]
        omega
      refine .number (List.mem_cons_self) ?_ ?_
      · simp [isHexDigit, hhigh, hlow, hzero]
      · have hvalid : c.toNat.isValidChar := c.valid
        rw [hvalue, character?, if_pos hvalid, Char.ofNat_toNat]
    · rename_i hcontrol
      rw [not_or] at hcontrol
      refine .plain ?_ hsign.1 hsign.2
      simp [isPlain, hcontrol.2, Nat.le_of_not_lt hcontrol.1]

/-- Every text can be written. -/
theorem quoted_quoted (s : Text) : Quoted s (quoted s) := by
  refine .mk ?_
  induction s with
  | nil => exact .nil
  | cons c s ih => exact .cons (quotedChar_escaped c) ih

example : quoted "say \"\\\n".toList = "\"say \\\"\\\\\\u000a\"".toList := by decide

end MismatchLog.Toml
