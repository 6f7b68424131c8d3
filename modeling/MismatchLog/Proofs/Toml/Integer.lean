import MismatchLog.Proofs.Key.Spelling
import MismatchLog.Proofs.Text.Decimal
import MismatchLog.Toml.Number

/-!
# Decimal integers

The grammar of an integer in decimal notation, apart from the readers of numbers: `Decimal`, with or
without a sign, and with underscores where they may stand. `number?_decimal`: where a value can end
behind it, it is read as this integer, not as a moment or a number with a fraction.
-/

namespace MismatchLog.Toml

open Text (ofDigits)

/-- What can stand behind a value: the end of its line, or what follows a part of an array or an
inline table. -/
def ends : List Char := ['\n', ' ', ',', ']', '\x7d']

/-- Decimal digits, and a text for them with single underscores in between. -/
inductive Digits : Text → Text → Prop
  | last {c : Char} (digit : c.isDigit = true) : Digits [c] [c]
  | cons {c : Char} {ds t : Text} (digit : c.isDigit = true) (rest : Digits ds t) :
      Digits (c :: ds) (c :: t)
  | spaced {c : Char} {ds t : Text} (digit : c.isDigit = true) (rest : Digits ds t) :
      Digits (c :: ds) (c :: '_' :: t)

/-- A decimal integer. It has no leading zero unless it is the only digit. -/
inductive Decimal : Int → Text → Prop
  | mk {sign ds t : Text} (isSign : sign ∈ [[], ['+'], ['-']]) (digits : Digits ds t)
      (zero : ds.head? = some '0' → ds = ['0']) :
      Decimal (if sign = ['-'] then -ofDigits 10 ds else ofDigits 10 ds) (sign ++ t)

theorem Digits.head {ds t : Text} (h : Digits ds t) :
    ∃ c u v, ds = c :: u ∧ t = c :: v ∧ c.isDigit = true := by
  cases h with
  | last digit => exact ⟨_, _, _, rfl, rfl, digit⟩
  | cons digit _ => exact ⟨_, _, _, rfl, rfl, digit⟩
  | spaced digit _ => exact ⟨_, _, _, rfl, rfl, digit⟩

theorem Digits.mem {ds t : Text} (h : Digits ds t) {c : Char} (hc : c ∈ t) :
    c.isDigit = true ∨ c = '_' := by
  induction h with
  | last digit =>
    obtain rfl := List.mem_singleton.mp hc
    exact .inl digit
  | cons digit _ ih =>
    rcases List.mem_cons.mp hc with rfl | hc
    · exact .inl digit
    · exact ih hc
  | spaced digit _ ih =>
    rcases List.mem_cons.mp hc with rfl | hc
    · exact .inl digit
    · rcases List.mem_cons.mp hc with rfl | hc
      · exact .inr rfl
      · exact ih hc

theorem digits_cons {c : Char} (hc : c.isDigit = true) (t : Text) :
    digits Char.isDigit (c :: t) =
      (c :: (digits Char.isDigit t).1, (digits Char.isDigit t).2) := by
  have hne : c ≠ '_' := by
    rintro rfl
    exact absurd hc (by decide)
  rw [digits, if_pos hc]
  intro _ _ h
  exact absurd h hne

theorem digits_spaced {c d : Char} (hc : c.isDigit = true) (hd : d.isDigit = true) (t : Text) :
    digits Char.isDigit (c :: '_' :: d :: t) =
      (c :: (digits Char.isDigit (d :: t)).1, (digits Char.isDigit (d :: t)).2) := by
  rw [digits_cons hc, digits, if_pos hd, digits_cons hd]

theorem not_isDigit_of_mem_ends : ∀ e ∈ ends, e.isDigit = false := by simp [ends]

theorem digits_end {e : Char} (he : e ∈ ends) (rest : Text) :
    digits Char.isDigit (e :: rest) = ([], e :: rest) := by
  rw [digits, if_neg (by simp [not_isDigit_of_mem_ends e he])]
  rintro c after rfl
  exact absurd he (by decide)

theorem digits_written {ds t : Text} (h : Digits ds t) {e : Char} (he : e ∈ ends) (rest : Text) :
    digits Char.isDigit (t ++ e :: rest) = (ds, e :: rest) := by
  induction h with
  | last digit => rw [List.singleton_append, digits_cons digit, digits_end he]
  | cons digit _ ih => rw [List.cons_append, digits_cons digit, ih]
  | @spaced c ds t digit h ih =>
    obtain ⟨d, u, v, rfl, rfl, hd⟩ := h.head
    rw [List.cons_append, List.cons_append, List.cons_append, digits_spaced digit hd,
      ← List.cons_append, ih]

theorem decimalDigits?_written {ds t : Text} (h : Digits ds t)
    (hzero : ds.head? = some '0' → ds = ['0']) {e : Char} (he : e ∈ ends) (rest : Text) :
    decimalDigits? (t ++ e :: rest) = some (ds, e :: rest) := by
  obtain ⟨c, u, v, rfl, rfl, hc⟩ := h.head
  by_cases hz : c = '0'
  · subst hz
    obtain rfl := (List.cons.inj (hzero rfl)).2
    cases h with
    | last _ => rfl
    | cons _ rest => cases rest
    | spaced _ rest => cases rest
  · have hread := digits_written h he rest
    rw [List.cons_append] at hread ⊢
    rw [decimalDigits?, digits?, if_pos hc, hread]
    simpa using hz

/-- A sign in front of a digit is taken off. -/
theorem sign_written {s t : Text} (hs : s ∈ [[], ['+'], ['-']]) {c : Char}
    (hc : c.isDigit = true) : sign (s ++ c :: t) = (s.head?, c :: t) := by
  simp only [List.mem_cons, List.not_mem_nil, or_false] at hs
  rcases hs with rfl | rfl | rfl
  · have hplus : c ≠ '+' := by rintro rfl; exact absurd hc (by decide)
    have hminus : c ≠ '-' := by rintro rfl; exact absurd hc (by decide)
    rw [List.nil_append, sign]
    · rfl
    · simpa using hplus
    · simpa using hminus
  · rfl
  · rfl

theorem fixed?_eq_some {n low high v : Nat} {t r : Text}
    (h : fixed? n low high t = some (v, r)) :
    (t.take n).length = n ∧ (∀ c ∈ t.take n, c.isDigit = true) ∧ r = t.drop n := by
  unfold fixed? at h
  dsimp only at h
  split at h
  · rename_i hds
    obtain ⟨-, rfl⟩ := Prod.mk.inj (Option.some.inj h)
    exact ⟨hds.1, List.all_eq_true.mp hds.2.1, rfl⟩
  · cases h

/-- Digits that are taken from the front do not reach a character that is none. -/
theorem le_length_of_take_isDigit {t rest : Text} {e : Char} {n : Nat} (he : e.isDigit = false)
    (h : ∀ c ∈ (t ++ e :: rest).take n, c.isDigit = true) : n ≤ t.length := by
  by_contra hlt
  obtain ⟨k, hk⟩ : ∃ k, n - t.length = k + 1 := ⟨n - t.length - 1, by omega⟩
  have hmem : e ∈ (t ++ e :: rest).take n := by
    rw [List.take_append, hk, List.take_succ_cons]
    exact List.mem_append_right _ List.mem_cons_self
  have hdigit := h e hmem
  rw [he] at hdigit
  cases hdigit

/-- The character at which a text is cut, up to a certain one. -/
theorem mem_or_eq_of_drop {t rest u : Text} {e c : Char} {n : Nat} (hle : n ≤ t.length)
    (h : (t ++ e :: rest).drop n = c :: u) : c ∈ t ∨ c = e := by
  rw [List.drop_append_of_le_length hle] at h
  cases hdrop : t.drop n with
  | nil =>
    rw [hdrop, List.nil_append] at h
    exact .inr (List.cons.inj h).1.symm
  | cons d after =>
    rw [hdrop, List.cons_append] at h
    obtain rfl := (List.cons.inj h).1
    exact .inl (List.mem_of_mem_drop (by rw [hdrop]; exact List.mem_cons_self))

section
variable {s ds t : Text} {e : Char} (hs : s ∈ [[], ['+'], ['-']]) (hds : Digits ds t)
  (he : e ∈ ends)
include hs hds

theorem specialFloat?_integer (rest : Text) : specialFloat? (s ++ (t ++ e :: rest)) = none := by
  obtain ⟨c, u, v, rfl, rfl, hc⟩ := hds.head
  rw [List.cons_append, specialFloat?, sign_written hs hc]
  split
  · rename_i heq
    obtain rfl := (List.cons.inj (Prod.mk.inj heq).2).1
    exact absurd hc (by decide)
  · rename_i heq
    obtain rfl := (List.cons.inj (Prod.mk.inj heq).2).1
    exact absurd hc (by decide)
  · rfl

include he

/-- Neither a dash nor a colon stands behind the first digits of an integer. -/
theorem after?_fixed {n low high v : Nat} {r rest : Text} {sep : Char}
    (hsep : sep ∈ ['-', ':']) (hn : 0 < n)
    (h : fixed? n low high (s ++ (t ++ e :: rest)) = some (v, r)) :
    Text.after? [sep] r = none := by
  obtain ⟨hlength, hdigit, rfl⟩ := fixed?_eq_some h
  simp only [List.mem_cons, List.not_mem_nil, or_false] at hs hsep
  have hsign (c : Char) (u : Text) (heq : s ++ (t ++ e :: rest) = c :: u) : c.isDigit = true := by
    rw [heq, List.take_cons hn] at hdigit
    exact hdigit c List.mem_cons_self
  rcases hs with rfl | rfl | rfl
  · rw [List.nil_append] at hdigit ⊢
    rw [Option.eq_none_iff_forall_ne_some]
    intro u hu
    have hu := Key.after?_eq_some_iff.mp hu
    have hle := le_length_of_take_isDigit (not_isDigit_of_mem_ends e he) hdigit
    rcases mem_or_eq_of_drop hle hu with hmem | rfl
    · rcases hsep with rfl | rfl <;> rcases hds.mem hmem with h | h <;> exact absurd h (by decide)
    · rcases hsep with rfl | rfl <;> exact absurd he (by decide)
  · exact absurd (hsign '+' _ rfl) (by decide)
  · exact absurd (hsign '-' _ rfl) (by decide)

theorem moment?_integer (rest : Text) : moment? (s ++ (t ++ e :: rest)) = none := by
  have hdate : date? (s ++ (t ++ e :: rest)) = none := by
    unfold date?
    cases hyear : fixed? 4 0 9999 (s ++ (t ++ e :: rest)) with
    | none => rfl
    | some r =>
      have hdash := after?_fixed hs hds he List.mem_cons_self (by decide) hyear
      simp only [Option.bind_eq_bind, Option.bind_some, hdash, Option.bind_none]
  have htime : time? (s ++ (t ++ e :: rest)) = none := by
    unfold time?
    cases hhour : fixed? 2 0 23 (s ++ (t ++ e :: rest)) with
    | none => rfl
    | some r =>
      have hsep : ':' ∈ ['-', ':'] := by decide
      have hcolon := after?_fixed hs hds he hsep (by decide) hhour
      simp only [Option.bind_eq_bind, Option.bind_some, hcolon, Option.bind_none]
  rw [moment?, hdate]
  exact htime

theorem decimalFloat?_integer (hzero : ds.head? = some '0' → ds = ['0']) (rest : Text) :
    decimalFloat? (s ++ (t ++ e :: rest)) = none := by
  have hdigits := decimalDigits?_written hds hzero he rest
  obtain ⟨c, u, v, rfl, rfl, hc⟩ := hds.head
  rw [List.cons_append] at hdigits ⊢
  have hexponent : exponent? (e :: rest) = none := by
    rw [exponent?, if_neg]
    rintro (rfl | rfl) <;> exact absurd he (by decide)
  simp only [decimalFloat?, sign_written hs hc, hdigits, Option.bind_eq_bind, Option.bind_some]
  split
  · rename_i heq
    obtain rfl := (List.cons.inj heq).1
    exact absurd he (by decide)
  · rw [hexponent]
    rfl

/-- Behind a first character `0` stands a digit, an underscore or the end of the line. -/
theorem numeral_mem_second {letter : Char} {rest after : Text}
    (heq : s ++ (t ++ e :: rest) = '0' :: letter :: after) :
    letter.isDigit = true ∨ letter ∈ '_' :: ends := by
  simp only [List.mem_cons, List.not_mem_nil, or_false] at hs
  rcases hs with rfl | rfl | rfl
  · rw [List.nil_append] at heq
    cases t with
    | nil => cases hds
    | cons c t =>
      cases t with
      | nil =>
        obtain rfl := (List.cons.inj (List.cons.inj heq).2).1
        exact .inr (List.mem_cons_of_mem _ he)
      | cons d t =>
        obtain rfl := (List.cons.inj (List.cons.inj heq).2).1
        have hmem : d ∈ c :: d :: t := List.mem_cons_of_mem _ List.mem_cons_self
        rcases hds.mem hmem with hdigit | rfl
        · exact .inl hdigit
        · exact .inr List.mem_cons_self
  · exact absurd (List.cons.inj heq).1 (by decide)
  · exact absurd (List.cons.inj heq).1 (by decide)

theorem integer?_written (hzero : ds.head? = some '0' → ds = ['0'])
    (hlow : -0x8000000000000000 ≤ if s = ['-'] then -(ofDigits 10 ds : Int) else ofDigits 10 ds)
    (hhigh : (if s = ['-'] then -(ofDigits 10 ds : Int) else ofDigits 10 ds) ≤ 0x7FFFFFFFFFFFFFFF)
    (rest : Text) : integer? (s ++ (t ++ e :: rest)) =
      some (if s = ['-'] then -(ofDigits 10 ds : Int) else ofDigits 10 ds, e :: rest) := by
  have hdigits := decimalDigits?_written hds hzero he rest
  have hsign : s.head? = some '-' ↔ s = ['-'] := by
    simp only [List.mem_cons, List.not_mem_nil, or_false] at hs
    rcases hs with rfl | rfl | rfl <;> decide
  have hbase (letter : Char) (after : Text) (hletter : letter ∈ ['x', 'o', 'b']) :
      s ++ (t ++ e :: rest) ≠ '0' :: letter :: after := by
    intro heq
    have hmem := numeral_mem_second hs hds he heq
    simp only [List.mem_cons, List.not_mem_nil, or_false] at hletter
    rcases hletter with rfl | rfl | rfl <;> exact absurd hmem (by decide)
  obtain ⟨c, u, v, rfl, rfl, hc⟩ := hds.head
  rw [List.cons_append] at hdigits hbase ⊢
  rw [integer?]
  · simp only [sign_written hs hc, hdigits, hsign, Option.bind_eq_bind, Option.bind_some]
    rw [inRange?, if_pos ⟨hlow, hhigh⟩]
    rfl
  · exact fun after heq => hbase 'x' after (by decide) heq
  · exact fun after heq => hbase 'o' after (by decide) heq
  · exact fun after heq => hbase 'b' after (by decide) heq

end

/-- A decimal integer of 64 bits is read as itself. -/
theorem number?_decimal {n : Int} {t : Text} (h : Decimal n t) (hlow : -0x8000000000000000 ≤ n)
    (hhigh : n ≤ 0x7FFFFFFFFFFFFFFF) {e : Char} (he : e ∈ ends) (rest : Text) :
    number? (t ++ e :: rest) = some (.integer n, e :: rest) := by
  cases h with
  | mk hs hds hzero =>
    rw [List.append_assoc, number?, moment?_integer hs hds he,
      decimalFloat?_integer hs hds he hzero, specialFloat?_integer hs hds,
      integer?_written hs hds he hzero hlow hhigh]
    rfl

theorem digits_self {t : Text} (hne : t ≠ []) (h : ∀ c ∈ t, c.isDigit = true) : Digits t t := by
  induction t with
  | nil => exact absurd rfl hne
  | cons c t ih =>
    have hc := h c List.mem_cons_self
    cases t with
    | nil => exact .last hc
    | cons d t =>
      exact .cons hc (ih (List.cons_ne_nil d t) fun e he => h e (List.mem_cons_of_mem c he))

/-- Every integer can be written. -/
theorem decimal_signedDecimal (n : Int) : Decimal n (Text.signedDecimal n) := by
  have hdigits (m : Nat) : Digits (Text.decimal m) (Text.decimal m) :=
    digits_self (Text.decimal_ne_nil m) fun _ => Text.isDigit_of_mem_decimal
  have hzero (m : Nat) (h : (Text.decimal m).head? = some '0') : Text.decimal m = ['0'] := by
    obtain ⟨t, ht⟩ := List.head?_eq_some_iff.mp h
    rw [ht, Text.decimal_eq_zero_cons ht]
  cases n with
  | ofNat m =>
    have hsign : ([] : Text) ∈ [[], ['+'], ['-']] := by decide
    have h := Decimal.mk hsign (hdigits m) (hzero m)
    rw [Text.ofDigits_decimal, if_neg (by decide)] at h
    exact h
  | negSucc m =>
    have hsign : ['-'] ∈ [[], ['+'], ['-']] := by decide
    have h := Decimal.mk hsign (hdigits (m + 1)) (hzero (m + 1))
    rw [Text.ofDigits_decimal, if_pos rfl] at h
    exact h

/-- A decimal integer starts with a sign or a digit. -/
theorem Decimal.head {n : Int} {t : Text} (h : Decimal n t) :
    ∃ c u, t = c :: u ∧ (c ∈ ['+', '-'] ∨ c.isDigit = true) := by
  cases h with
  | mk hs hds _ =>
    obtain ⟨c, _, v, _, rfl, hc⟩ := hds.head
    simp only [List.mem_cons, List.not_mem_nil, or_false] at hs
    rcases hs with rfl | rfl | rfl
    · exact ⟨c, v, rfl, .inr hc⟩
    · exact ⟨'+', c :: v, rfl, .inl (by decide)⟩
    · exact ⟨'-', c :: v, rfl, .inl (by decide)⟩

end MismatchLog.Toml
