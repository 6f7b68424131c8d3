import MismatchLog.Key
import Mathlib.Data.List.TakeWhile

/-!
# How a pair of literals is written

The grammar of a pair, apart from the reader: `DUT`, an equals sign, a literal, a comma, `REF`, an
equals sign and a literal, with blanks between any two of them. A spelling is one text that starts
with a pair, taken apart; what follows the second literal is part of it, so that the literal is as
long as it can be.

* `written_injective`: a text is taken apart in at most one way;
* `pair?_written`, `exists_written_of_pair?`: the reader accepts exactly the texts that have a
  spelling, and gives its two literals.
-/

namespace MismatchLog.Key

/-- A text that does not go on with a character of a class. -/
def Stops (p : Char → Bool) (t : Text) : Prop := ∀ c ∈ t.head?, p c = false

/-- Blanks between two signs, possibly none. -/
@[ext]
structure Blanks where
  text : Text
  blank : ∀ c ∈ text, Text.isBlank c = true

/-- A zero, an `x` in either case, and at least one hexadecimal digit. -/
@[ext]
structure Literal where
  sign : Char
  digits : Text
  sign_eq : sign = 'x' ∨ sign = 'X'
  digits_ne : digits ≠ []
  hex : ∀ c ∈ digits, Text.isHexDigit c = true

def Literal.text (l : Literal) : Text := '0' :: l.sign :: l.digits

/-- A pair at the start of a text, and the rest of the text. -/
@[ext]
structure Spelling where
  w₁ : Blanks
  w₂ : Blanks
  dut : Literal
  w₃ : Blanks
  w₄ : Blanks
  w₅ : Blanks
  w₆ : Blanks
  ref : Literal
  rest : Text
  maximal : Stops Text.isHexDigit rest

namespace Spelling

/-- The pair without what follows it. -/
def pair (s : Spelling) : Text :=
  ['D', 'U', 'T'] ++ s.w₁.text ++ ['='] ++ s.w₂.text ++ s.dut.text ++ s.w₃.text ++ [','] ++
    s.w₄.text ++ ['R', 'E', 'F'] ++ s.w₅.text ++ ['='] ++ s.w₆.text ++ s.ref.text

def written (s : Spelling) : Text := s.pair ++ s.rest

end Spelling

/-! ## Runs of one class -/

theorem stops_nil (p : Char → Bool) : Stops p [] := by
  intro c hc
  cases hc

theorem stops_cons {p : Char → Bool} {c : Char} {t : Text} (hc : p c = false) : Stops p (c :: t) := by
  intro d hd
  obtain rfl : c = d := by simpa using hd
  exact hc

theorem stops_append {p : Char → Bool} {t u : Text} (ht : ∀ c ∈ t, p c = false) (hu : Stops p u) :
    Stops p (t ++ u) := by
  cases t with
  | nil => exact hu
  | cons c t => exact stops_cons (ht c List.mem_cons_self)

theorem stops_dropWhile (p : Char → Bool) (t : Text) : Stops p (t.dropWhile p) := by
  intro c hc
  have h := List.head?_dropWhile_not p t
  rw [Option.mem_def.mp hc] at h
  simpa using h

theorem dropWhile_run {p : Char → Bool} {w t : Text} (hw : ∀ c ∈ w, p c = true) (ht : Stops p t) :
    (w ++ t).dropWhile p = t := by
  rw [List.dropWhile_append_of_pos hw]
  cases t with
  | nil => rfl
  | cons c t => rw [List.dropWhile_cons_of_neg (by simp [ht c rfl])]

theorem takeWhile_run {p : Char → Bool} {w t : Text} (hw : ∀ c ∈ w, p c = true) (ht : Stops p t) :
    (w ++ t).takeWhile p = w := by
  rw [List.takeWhile_append_of_pos hw]
  cases t with
  | nil => simp
  | cons c t => rw [List.takeWhile_cons_of_neg (by simp [ht c rfl]), List.append_nil]

/-- A run is as long as it can be, so the text tells where it ends. -/
theorem run_unique {p : Char → Bool} {w w' t t' : Text} (hw : ∀ c ∈ w, p c = true)
    (hw' : ∀ c ∈ w', p c = true) (ht : Stops p t) (ht' : Stops p t')
    (heq : w ++ t = w' ++ t') : w = w' ∧ t = t' := by
  constructor
  · rw [← takeWhile_run hw ht, heq, takeWhile_run hw' ht']
  · rw [← dropWhile_run hw ht, heq, dropWhile_run hw' ht']

/-! ## Characters -/

theorem isHexDigit_iff {c : Char} : Text.isHexDigit c = true ↔
    ('0' ≤ c ∧ c ≤ '9') ∨ ('a' ≤ c ∧ c ≤ 'f') ∨ ('A' ≤ c ∧ c ≤ 'F') := by
  unfold Text.isHexDigit Text.hexValue?
  split
  · simp [*]
  · split
    · simp [*]
    · split <;> simp [*]

theorem isHexDigit_of_isBlank {c : Char} (h : Text.isBlank c = true) :
    Text.isHexDigit c = false := by
  have le (a b : Char) : a ≤ b ↔ a.toNat ≤ b.toNat := Iff.rfl
  have hb : ∃ r ∈ Text.blankRanges, r.1 ≤ c.toNat ∧ c.toNat ≤ r.2 := by
    simpa [Text.isBlank, Text.inRanges] using h
  rw [← Bool.not_eq_true, isHexDigit_iff]
  simp only [le, Char.reduceToNat]
  simp [Text.blankRanges] at hb
  omega

theorem Blanks.stops_append (w : Blanks) {t : Text} (ht : Stops Text.isHexDigit t) :
    Stops Text.isHexDigit (w.text ++ t) :=
  Key.stops_append (fun c hc => isHexDigit_of_isBlank (w.blank c hc)) ht

/-! ## One part at a time -/

theorem after?_eq_some_iff {w t u : Text} : Text.after? w t = some u ↔ t = w ++ u := by
  unfold Text.after?
  split
  · rename_i hpre
    obtain ⟨v, rfl⟩ := hpre
    simp
  · rename_i hpre
    simp only [reduceCtorEq, false_iff]
    rintro rfl
    exact hpre (List.prefix_append w u)

theorem skipBlanks_append (w : Blanks) {t : Text} (ht : Stops Text.isBlank t) :
    Text.skipBlanks (w.text ++ t) = t :=
  dropWhile_run w.blank ht

theorem exists_blanks (t : Text) : ∃ w : Blanks, t = w.text ++ Text.skipBlanks t :=
  ⟨⟨t.takeWhile Text.isBlank, fun _ => List.mem_takeWhile_imp⟩,
    List.takeWhile_append_dropWhile.symm⟩

theorem literal?_text (l : Literal) {t : Text} (ht : Stops Text.isHexDigit t) :
    literal? (l.text ++ t) = some (l.text, t) := by
  have hdigits : (l.digits ++ t).takeWhile Text.isHexDigit = l.digits := takeWhile_run l.hex ht
  have hrest : (l.digits ++ t).dropWhile Text.isHexDigit = t := dropWhile_run l.hex ht
  simp [literal?, Literal.text, hdigits, hrest, l.sign_eq, l.digits_ne]

theorem exists_literal {t u d : Text} (h : literal? t = some (d, u)) :
    ∃ l : Literal, l.text = d ∧ t = l.text ++ u ∧ Stops Text.isHexDigit u := by
  unfold literal? at h
  split at h
  · rename_i x rest
    dsimp only at h
    split at h
    · rename_i hlit
      obtain ⟨hx, hne⟩ := hlit
      simp only [Option.some.injEq, Prod.mk.injEq] at h
      obtain ⟨rfl, rfl⟩ := h
      refine ⟨⟨x, _, hx, hne, fun _ => List.mem_takeWhile_imp⟩, rfl, ?_, stops_dropWhile _ _⟩
      simp [Literal.text]
    · cases h
  · cases h

theorem blanks_unique {v w : Blanks} {t u : Text} (ht : Stops Text.isBlank t)
    (hu : Stops Text.isBlank u) (heq : v.text ++ t = w.text ++ u) : v = w ∧ t = u := by
  obtain ⟨htext, hrest⟩ := run_unique v.blank w.blank ht hu heq
  exact ⟨Blanks.ext htext, hrest⟩

theorem literal_unique {l m : Literal} {t u : Text} (ht : Stops Text.isHexDigit t)
    (hu : Stops Text.isHexDigit u) (heq : l.text ++ t = m.text ++ u) : l = m ∧ t = u := by
  simp only [Literal.text, List.cons_append, List.cons.injEq, true_and] at heq
  obtain ⟨hsign, hdigits⟩ := heq
  obtain ⟨hdigits, hrest⟩ := run_unique l.hex m.hex ht hu hdigits
  exact ⟨Literal.ext hsign hdigits, hrest⟩

/-! ## The whole pair -/

namespace Spelling

theorem written_eq (s : Spelling) : s.written = ['D', 'U', 'T'] ++ (s.w₁.text ++ (['='] ++
    (s.w₂.text ++ (s.dut.text ++ (s.w₃.text ++ ([','] ++ (s.w₄.text ++ (['R', 'E', 'F'] ++
      (s.w₅.text ++ (['='] ++ (s.w₆.text ++ (s.ref.text ++ s.rest)))))))))))) := by
  simp only [written, pair, List.append_assoc]

theorem stops_equals (t : Text) : Stops Text.isBlank (['='] ++ t) := stops_cons rfl

theorem stops_comma (t : Text) : Stops Text.isBlank ([','] ++ t) := stops_cons rfl

theorem stops_ref (t : Text) : Stops Text.isBlank (['R', 'E', 'F'] ++ t) := stops_cons rfl

theorem stops_literal (l : Literal) (t : Text) : Stops Text.isBlank (l.text ++ t) :=
  stops_cons rfl

/-- What follows the first literal is no digit: blanks and a comma. -/
theorem stops_dut (w : Blanks) (t : Text) : Stops Text.isHexDigit (w.text ++ ([','] ++ t)) :=
  w.stops_append (stops_cons rfl)

end Spelling

open Spelling

theorem pair?_written (s : Spelling) : pair? s.written = some (s.dut.text, s.ref.text) := by
  have after (w t : Text) : Text.after? w (w ++ t) = some t := after?_eq_some_iff.mpr rfl
  rw [s.written_eq, pair?]
  simp only [after, skipBlanks_append _ (stops_equals _), skipBlanks_append _ (stops_comma _),
    skipBlanks_append _ (stops_ref _), skipBlanks_append _ (stops_literal _ _),
    literal?_text _ (stops_dut _ _), literal?_text _ s.maximal, bind, Option.bind, pure]

theorem exists_written_of_pair? {t d r : Text} (h : pair? t = some (d, r)) :
    ∃ s : Spelling, s.written = t ∧ s.dut.text = d ∧ s.ref.text = r := by
  simp only [pair?, Option.bind_eq_bind, Option.bind_eq_some_iff, after?_eq_some_iff,
    Option.pure_def, Option.some.injEq, Prod.exists, Prod.mk.injEq] at h
  obtain ⟨t₁, rfl, t₂, h₁, dut, t₃, h₂, t₄, h₃, t₅, h₄, t₆, h₅, ref, t₇, h₆, rfl, rfl⟩ := h
  obtain ⟨w₁, hw₁⟩ := exists_blanks t₁
  obtain ⟨w₂, hw₂⟩ := exists_blanks t₂
  obtain ⟨l, rfl, hl, -⟩ := exists_literal h₂
  obtain ⟨w₃, hw₃⟩ := exists_blanks t₃
  obtain ⟨w₄, hw₄⟩ := exists_blanks t₄
  obtain ⟨w₅, hw₅⟩ := exists_blanks t₅
  obtain ⟨w₆, hw₆⟩ := exists_blanks t₆
  obtain ⟨m, rfl, hm, hend⟩ := exists_literal h₆
  refine ⟨⟨w₁, w₂, l, w₃, w₄, w₅, w₆, m, t₇, hend⟩, ?_, rfl, rfl⟩
  rw [written_eq, hw₁, h₁, hw₂, hl, hw₃, h₃, hw₄, h₄, hw₅, h₅, hw₆, hm]

/-- A text is taken apart in at most one way: every run ends where its class does. -/
theorem written_injective : Function.Injective written := by
  intro s s' heq
  rw [s.written_eq, s'.written_eq] at heq
  obtain ⟨e₁, h₁⟩ := blanks_unique (stops_equals _) (stops_equals _) (List.append_cancel_left heq)
  obtain ⟨e₂, h₂⟩ :=
    blanks_unique (stops_literal _ _) (stops_literal _ _) (List.append_cancel_left h₁)
  obtain ⟨e₃, h₃⟩ := literal_unique (stops_dut _ _) (stops_dut _ _) h₂
  obtain ⟨e₄, h₄⟩ := blanks_unique (stops_comma _) (stops_comma _) h₃
  obtain ⟨e₅, h₅⟩ := blanks_unique (stops_ref _) (stops_ref _) (List.append_cancel_left h₄)
  obtain ⟨e₆, h₆⟩ := blanks_unique (stops_equals _) (stops_equals _) (List.append_cancel_left h₅)
  obtain ⟨e₇, h₇⟩ :=
    blanks_unique (stops_literal _ _) (stops_literal _ _) (List.append_cancel_left h₆)
  obtain ⟨e₈, e₉⟩ := literal_unique s.maximal s'.maximal h₇
  exact Spelling.ext e₁ e₂ e₃ e₄ e₅ e₆ e₇ e₈ e₉

end MismatchLog.Key
