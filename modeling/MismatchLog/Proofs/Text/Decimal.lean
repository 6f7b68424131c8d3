import MismatchLog.Text

/-!
# Decimal numbers read back

* `ofDecimal?_decimal`: the digits of a number stand for it;
* `ofDigits_decimal`: read in another way they stand for it, too;
* `decimal_eq_zero_cons`: they start with a zero only where that is all of them.
-/

namespace MismatchLog.Text

theorem decimal_ne_nil (n : Nat) : decimal n ≠ [] := Nat.toDigits_ne_nil

theorem isDigit_of_mem_decimal {n : Nat} {c : Char} (hc : c ∈ decimal n) : c.isDigit = true :=
  Nat.isDigit_of_mem_toDigits (by decide) (by decide) hc

/-- The number that decimal digits stand for, leading zeros or not. -/
def ofDecimal? (t : Text) : Option Nat :=
  if t ≠ [] ∧ t.all Char.isDigit then some (Nat.ofDigitChars 10 t 0) else none

theorem ofDecimal?_decimal (n : Nat) : ofDecimal? (decimal n) = some n := by
  have hall : (decimal n).all Char.isDigit = true :=
    List.all_eq_true.mpr fun _ => isDigit_of_mem_decimal
  rw [ofDecimal?, if_pos ⟨decimal_ne_nil n, hall⟩, decimal, Nat.ofDigitChars_ten_toDigits]

theorem decimal_injective : Function.Injective decimal := by
  intro m n h
  have hm := ofDecimal?_decimal m
  rw [h, ofDecimal?_decimal] at hm
  exact (Option.some.inj hm).symm

theorem hexValue?_of_isDigit {c : Char} (hc : c.isDigit = true) :
    hexValue? c = some (c.toNat - '0'.toNat) := by
  rw [Char.isDigit, Bool.and_eq_true, decide_eq_true_eq, decide_eq_true_eq] at hc
  have hrange : '0' ≤ c ∧ c ≤ '9' := hc
  rw [hexValue?, if_pos hrange]

/-- Digits that are read as hexadecimal ones keep their values. -/
theorem foldl_hexValue? {ds : Text} (hds : ∀ c ∈ ds, c.isDigit = true) (value : Nat) :
    ds.foldl (fun n c => 10 * n + (hexValue? c).getD 0) value = Nat.ofDigitChars 10 ds value := by
  induction ds generalizing value with
  | nil => rfl
  | cons c ds ih =>
    rw [List.foldl_cons, hexValue?_of_isDigit (hds c List.mem_cons_self),
      ih fun d hd => hds d (List.mem_cons_of_mem c hd)]
    rfl

theorem ofDigits_decimal (n : Nat) : ofDigits 10 (decimal n) = n := by
  rw [ofDigits, foldl_hexValue? fun _ => isDigit_of_mem_decimal]
  exact Nat.ofDigitChars_ten_toDigits

/-- No number but zero starts with the digit zero. -/
theorem decimal_eq_zero_cons {n : Nat} {t : Text} (h : decimal n = '0' :: t) : t = [] := by
  induction n using Nat.strongRecOn generalizing t with
  | ind n ih =>
    by_cases hn : n < 10
    · rw [decimal, Nat.toDigits_of_lt_base hn] at h
      exact (List.cons.inj h).2.symm
    · have hsplit : decimal n = decimal (n / 10) ++ [(n % 10).digitChar] :=
        Nat.toDigits_of_base_le (by decide) (by omega)
      rw [hsplit] at h
      cases hlead : decimal (n / 10) with
      | nil => exact absurd hlead (decimal_ne_nil _)
      | cons c lead =>
        rw [hlead, List.cons_append] at h
        obtain ⟨rfl, -⟩ := List.cons.inj h
        -- the leading digits alone would be those of zero
        have hzero : decimal (n / 10) = decimal 0 := by
          rw [hlead, ih (n / 10) (by omega) hlead]
          rfl
        have := decimal_injective hzero
        omega

end MismatchLog.Text
