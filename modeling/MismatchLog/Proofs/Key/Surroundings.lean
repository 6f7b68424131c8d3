import MismatchLog.Proofs.Key.Leftmost
import MismatchLog.Proofs.Line.Marker

/-!
# What stands around a pair

* `firstPair?_append_left`: a text without the letter that pairs start with brings no pair and moves
  none;
* `firstPair?_concat`: neither does one more character at the end of a line, unless it is a digit;
* `firstPair?_chomp`: so a terminator does not matter, whether it is dropped or not.
-/

namespace MismatchLog.Key

open Spelling

theorem pair?_eq_some_iff {t d r : Text} :
    pair? t = some (d, r) ↔ ∃ s : Spelling, s.written = t ∧ s.dut.text = d ∧ s.ref.text = r := by
  constructor
  · exact exists_written_of_pair?
  · rintro ⟨s, rfl, rfl, rfl⟩
    exact pair?_written s

/-! ## In front of a pair -/

theorem pair?_of_head_ne {c : Char} (hc : c ≠ 'D') (t : Text) : pair? (c :: t) = none := by
  rw [Option.eq_none_iff_forall_ne_some]
  rintro ⟨d, r⟩ h
  obtain ⟨s, hs, -, -⟩ := pair?_eq_some_iff.mp h
  obtain ⟨u, hu⟩ := written_eq_cons s
  rw [hu] at hs
  exact hc (List.cons.inj hs).1.symm

theorem firstPair?_append_left {w : Text} (hw : 'D' ∉ w) (t : Text) :
    firstPair? (w ++ t) = firstPair? t := by
  induction w with
  | nil => rfl
  | cons c w ih =>
    rw [List.mem_cons, not_or] at hw
    rw [List.cons_append, firstPair?, pair?_of_head_ne (Ne.symm hw.1)]
    exact ih hw.2

/-! ## Behind a pair -/

theorem exists_literal_concat (l : Literal) :
    ∃ lead digit, l.text = lead ++ [digit] ∧ Text.isHexDigit digit = true := by
  have hlast : l.digits.dropLast ++ [l.digits.getLast l.digits_ne] = l.digits :=
    List.dropLast_concat_getLast l.digits_ne
  refine ⟨'0' :: l.sign :: l.digits.dropLast, l.digits.getLast l.digits_ne, ?_,
    l.hex _ (List.getLast_mem l.digits_ne)⟩
  rw [Literal.text, List.cons_append, List.cons_append, hlast]

/-- A pair ends with a digit. -/
theorem exists_pair_concat (s : Spelling) :
    ∃ lead digit, s.pair = lead ++ [digit] ∧ Text.isHexDigit digit = true := by
  obtain ⟨lead, digit, htext, hdigit⟩ := exists_literal_concat s.ref
  exact ⟨_, digit, by rw [pair, htext, ← List.append_assoc], hdigit⟩

theorem stops_of_append {p : Char → Bool} {t u : Text} (h : Stops p (t ++ u)) : Stops p t := by
  cases t with
  | nil =>
    intro c hc
    cases hc
  | cons c t => exact h

/-- One more character at the end of a text belongs to what follows the pair. -/
theorem pair?_concat {c : Char} (hc : Text.isHexDigit c = false) (t : Text) :
    pair? (t ++ [c]) = pair? t := by
  apply Option.ext
  rintro ⟨d, r⟩
  rw [pair?_eq_some_iff, pair?_eq_some_iff]
  constructor
  · rintro ⟨s, hs, hd, hr⟩
    rcases List.eq_nil_or_concat s.rest with hrest | ⟨v, e, hrest⟩
    · -- the pair would end with the character
      obtain ⟨lead, digit, hpair, hdigit⟩ := exists_pair_concat s
      rw [written, hrest, List.append_nil, hpair] at hs
      have hend : [digit] = [c] := (List.append_inj' hs rfl).2
      rw [List.singleton_inj] at hend
      rw [hend, hc] at hdigit
      cases hdigit
    · rw [List.concat_eq_append] at hrest
      rw [written, hrest, ← List.append_assoc] at hs
      have hpair : s.pair ++ v = t := (List.append_inj' hs rfl).1
      have hmax : Stops Text.isHexDigit v := stops_of_append (hrest ▸ s.maximal)
      exact ⟨{ s with rest := v, maximal := hmax }, hpair, hd, hr⟩
  · rintro ⟨s, rfl, hd, hr⟩
    have hmax : Stops Text.isHexDigit (s.rest ++ [c]) := by
      have hold := s.maximal
      cases hrest : s.rest with
      | nil => exact stops_cons hc
      | cons e rest =>
        rw [hrest] at hold
        exact hold
    exact ⟨{ s with rest := s.rest ++ [c], maximal := hmax }, (List.append_assoc _ _ _).symm, hd,
      hr⟩

theorem firstPair?_concat {c : Char} (hc : Text.isHexDigit c = false) (t : Text) :
    firstPair? (t ++ [c]) = firstPair? t := by
  induction t with
  | nil =>
    have hnone : pair? [c] = none := (pair?_concat hc []).trans rfl
    rw [List.nil_append]
    simp only [firstPair?, hnone]
  | cons d t ih =>
    have hpair := pair?_concat hc (d :: t)
    rw [List.cons_append] at hpair
    rw [List.cons_append, firstPair?, hpair, ih, firstPair?]

theorem firstPair?_chomp (t : Text) : firstPair? (Line.chomp t) = firstPair? t := by
  obtain ⟨e, he, ht⟩ := Line.exists_terminator t
  have hlf : Text.isHexDigit '\n' = false := by decide
  have hcr : Text.isHexDigit '\r' = false := by decide
  conv_rhs => rw [ht]
  rcases he with rfl | rfl | rfl
  · rw [List.append_nil]
  · rw [firstPair?_concat hlf]
  · rw [← List.singleton_append, ← List.append_assoc, firstPair?_concat hlf, firstPair?_concat hcr]

/-! ## Keys of lines with the same pair -/

theorem isHexPair_ofLine (t : Text) : (ofLine t).isHexPair = (firstPair? t).isSome := by
  unfold ofLine
  cases firstPair? t <;> rfl

theorem ofLine_eq_of_firstPair?_eq {a b : Text} (h : firstPair? a = firstPair? b)
    (hb : (ofLine b).isHexPair = true) : ofLine a = ofLine b := by
  obtain ⟨literals, hsome⟩ := Option.isSome_iff_exists.mp (isHexPair_ofLine b ▸ hb)
  rw [ofLine, ofLine, h, hsome]

end MismatchLog.Key
