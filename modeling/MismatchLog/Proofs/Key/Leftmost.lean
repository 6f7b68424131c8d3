import MismatchLog.Proofs.Key.Spelling
import Mathlib.Data.Nat.Find

/-!
# The key of a line is its leftmost pair

* `MatchAt`, `FirstMatch`: a pair is spelled at a place of a line, and at no earlier place;
* `firstPair?_of_firstMatch`, `firstPair?_eq_none_iff`: the search finds the first place, and gives
  up only where there is none;
* `firstMatch_respell`: a pair spelled anew at its place is still the first one, whatever follows
  it, since no earlier pair reaches beyond the first letter of a later one.

So the key of a line is a matter of the grammar alone.
-/

namespace MismatchLog.Key

open Spelling

/-- The line from a place on is a pair and a rest. -/
def MatchAt (line : Text) (i : Nat) (s : Spelling) : Prop := line.drop i = s.written

/-- A match with none to the left of it. -/
def FirstMatch (line : Text) (i : Nat) (s : Spelling) : Prop :=
  MatchAt line i s ∧ ∀ j < i, ∀ s', ¬ MatchAt line j s'

theorem matchAt_unique {line : Text} {i : Nat} {s s' : Spelling} (h : MatchAt line i s)
    (h' : MatchAt line i s') : s = s' :=
  written_injective (h.symm.trans h')

theorem pair?_of_matchAt {line : Text} {i : Nat} {s : Spelling} (h : MatchAt line i s) :
    pair? (line.drop i) = some (s.dut.text, s.ref.text) := by
  rw [h, pair?_written]

theorem exists_matchAt {line : Text} {i : Nat} {literals : Text × Text}
    (h : pair? (line.drop i) = some literals) :
    ∃ s, MatchAt line i s ∧ literals = (s.dut.text, s.ref.text) := by
  obtain ⟨d, r⟩ := literals
  obtain ⟨s, hs, rfl, rfl⟩ := exists_written_of_pair? h
  exact ⟨s, hs.symm, rfl⟩

theorem not_matchAt {line : Text} {i : Nat} (h : pair? (line.drop i) = none) (s : Spelling) :
    ¬ MatchAt line i s := by
  intro hs
  rw [pair?_of_matchAt hs] at h
  cases h

theorem exists_firstMatch {line : Text} (h : ∃ i s, MatchAt line i s) :
    ∃ i s, FirstMatch line i s := by
  classical
  obtain ⟨s, hs⟩ := Nat.find_spec h
  refine ⟨Nat.find h, s, hs, ?_⟩
  intro j hj s' hs'
  exact Nat.find_min h hj ⟨s', hs'⟩

theorem firstPair?_of_firstMatch {line : Text} {i : Nat} {s : Spelling}
    (h : FirstMatch line i s) : firstPair? line = some (s.dut.text, s.ref.text) := by
  induction line generalizing i with
  | nil =>
    have hm := h.1
    rw [MatchAt, List.drop_nil, written_eq] at hm
    cases hm
  | cons c rest ih =>
    unfold firstPair?
    cases i with
    | zero => rw [show pair? (c :: rest) = some _ from pair?_of_matchAt h.1]
    | succ i =>
      have hnone : pair? (c :: rest) = none := by
        rw [Option.eq_none_iff_forall_ne_some]
        intro literals hp
        obtain ⟨s', hs', -⟩ := exists_matchAt (show pair? ((c :: rest).drop 0) = _ from hp)
        exact h.2 0 (Nat.succ_pos i) s' hs'
      rw [hnone]
      exact ih ⟨h.1, fun j hj s' => h.2 (j + 1) (Nat.succ_lt_succ hj) s'⟩

theorem firstPair?_eq_none_iff {line : Text} :
    firstPair? line = none ↔ ∀ i s, ¬ MatchAt line i s := by
  constructor
  · intro hnone i s hs
    obtain ⟨j, s', hfirst⟩ := exists_firstMatch ⟨i, s, hs⟩
    rw [firstPair?_of_firstMatch hfirst] at hnone
    cases hnone
  · intro hno
    induction line with
    | nil => rfl
    | cons c rest ih =>
      unfold firstPair?
      cases hp : pair? (c :: rest) with
      | some literals =>
        obtain ⟨s, hs, -⟩ := exists_matchAt (show pair? ((c :: rest).drop 0) = _ from hp)
        exact absurd hs (hno 0 s)
      | none => exact ih fun i s => hno (i + 1) s

theorem ofLine_of_firstMatch {line : Text} {i : Nat} {s : Spelling} (h : FirstMatch line i s) :
    ofLine line = .hexPair (Text.lower s.dut.text) (Text.lower s.ref.text) := by
  rw [ofLine, firstPair?_of_firstMatch h]
  rfl

theorem ofLine_of_no_match {line : Text} (h : ∀ i s, ¬ MatchAt line i s) :
    ofLine line = .rawLine line := by
  rw [ofLine, firstPair?_eq_none_iff.mpr h]

/-! ## Literals in lower case -/

/-- `0x` and at least one digit, without capital letters. -/
def IsLowerLiteral (t : Text) : Prop :=
  ∃ digits, t = '0' :: 'x' :: digits ∧ digits ≠ [] ∧
    ∀ c ∈ digits, ('0' ≤ c ∧ c ≤ '9') ∨ ('a' ≤ c ∧ c ≤ 'f')

theorem toLower_hexDigit {c : Char} (h : Text.isHexDigit c = true) :
    ('0' ≤ c.toLower ∧ c.toLower ≤ '9') ∨ ('a' ≤ c.toLower ∧ c.toLower ≤ 'f') := by
  have hle (a b : Char) : a ≤ b ↔ a.toNat ≤ b.toNat := Iff.rfl
  rw [isHexDigit_iff] at h
  unfold Char.toLower
  split
  · rename_i hup
    have hcapital : 65 ≤ c.toNat ∧ c.toNat ≤ 90 := hup
    have hlow : (c.val + ('a'.val - 'A'.val)).toNat = c.toNat + 32 := by
      have hval : c.val.toNat ≤ 90 := hup.2
      rw [UInt32.toNat_add, show ('a'.val - 'A'.val).toNat = 32 from rfl]
      exact Nat.mod_eq_of_lt (by omega)
    right
    change 97 ≤ (c.val + ('a'.val - 'A'.val)).toNat ∧ (c.val + ('a'.val - 'A'.val)).toNat ≤ 102
    simp only [hle, Char.reduceToNat] at h
    omega
  · rename_i hup
    have hnot : ¬ ('A' ≤ c ∧ c ≤ 'Z') := hup
    rcases h with h | h | ⟨hA, hF⟩
    · exact .inl h
    · exact .inr h
    · exact absurd ⟨hA, Char.le_trans hF (by decide)⟩ hnot

theorem Literal.lower_text (l : Literal) : IsLowerLiteral (Text.lower l.text) := by
  refine ⟨Text.lower l.digits, ?_, by simpa [Text.lower] using l.digits_ne, ?_⟩
  · rcases l.sign_eq with h | h <;> simp [Literal.text, Text.lower, h]
  · intro c hc
    obtain ⟨d, hd, rfl⟩ := List.mem_map.mp hc
    exact toLower_hexDigit (l.hex d hd)

/-! ## A pair spelled anew -/

/-- Two spellings have the same literals up to letter case. -/
def SameLiterals (s s' : Spelling) : Prop :=
  Text.lower s.dut.text = Text.lower s'.dut.text ∧ Text.lower s.ref.text = Text.lower s'.ref.text
  deriving Decidable

theorem not_mem_run {p : Char → Bool} {w : Text} {c : Char} (hw : ∀ d ∈ w, p d = true)
    (hc : p c = false) : c ∉ w := by
  intro hmem
  rw [hw c hmem] at hc
  cases hc

theorem Literal.not_mem_text (l : Literal) : 'U' ∉ l.text := by
  have hdigits : 'U' ∉ l.digits := not_mem_run l.hex rfl
  rcases l.sign_eq with h | h <;> simp [Literal.text, h, hdigits]

/-- The letter U stands in a pair once, as its second letter. -/
theorem pair_eq (s : Spelling) : ∃ tail, s.pair = 'D' :: 'U' :: tail ∧ 'U' ∉ tail := by
  have hw (w : Blanks) : 'U' ∉ w.text := not_mem_run w.blank rfl
  refine ⟨'T' :: (s.w₁.text ++ '=' :: (s.w₂.text ++ (s.dut.text ++ (s.w₃.text ++ ',' ::
    (s.w₄.text ++ 'R' :: 'E' :: 'F' :: (s.w₅.text ++ '=' :: (s.w₆.text ++ s.ref.text))))))), ?_, ?_⟩
  · simp [pair]
  · simp [hw, Literal.not_mem_text]

theorem written_eq_cons (s : Spelling) : ∃ u, s.written = 'D' :: 'U' :: u := by
  obtain ⟨tail, hpair, -⟩ := pair_eq s
  exact ⟨tail ++ s.rest, by rw [written, hpair]; rfl⟩

/-- A pair that starts to the left of another one ends before the other's second letter. -/
theorem pair_ends_early {a u : Text} {s : Spelling} (ha : a ≠ [])
    (heq : a ++ 'D' :: 'U' :: u = s.written) :
    ∃ v, a ++ ['D'] = s.pair ++ v ∧ s.rest = v ++ 'U' :: u := by
  obtain ⟨tail, hpair, htail⟩ := pair_eq s
  have hsplit : (a ++ ['D']) ++ 'U' :: u = s.pair ++ s.rest := by
    rw [List.append_assoc]
    exact heq
  rcases List.append_eq_append_iff.mp hsplit with ⟨v, hlong, hrest⟩ | ⟨v, hshort, hrest⟩
  · cases v with
    | nil => exact ⟨[], by simpa using hlong.symm, hrest.symm⟩
    | cons c v =>
      -- The pair would hold the other's U, which is too far to the right to be its own.
      exfalso
      obtain ⟨rfl, -⟩ := List.cons.inj hrest
      rw [hpair] at hlong
      cases a with
      | nil => exact ha rfl
      | cons d a =>
        cases a with
        | nil => simp at hlong
        | cons d' a =>
          have hmem : tail = a ++ ['D'] ++ 'U' :: v := (List.cons.inj (List.cons.inj hlong).2).2
          exact htail (by simp [hmem])
  · exact ⟨v, hshort, hrest⟩

/-- Whether a pair starts to the left of another one does not depend on anything behind the other's
second letter. -/
theorem exists_written_left {a u : Text} {s : Spelling} (ha : a ≠ [])
    (heq : a ++ 'D' :: 'U' :: u = s.written) (u' : Text) :
    ∃ s' : Spelling, a ++ 'D' :: 'U' :: u' = s'.written := by
  obtain ⟨v, hpair, hrest⟩ := pair_ends_early ha heq
  have hmax : Stops Text.isHexDigit (v ++ 'U' :: u') := by
    have hold := s.maximal
    rw [hrest] at hold
    cases v with
    | nil => exact stops_cons rfl
    | cons c v => exact hold
  refine ⟨{ s with rest := v ++ 'U' :: u', maximal := hmax }, ?_⟩
  calc a ++ 'D' :: 'U' :: u' = (a ++ ['D']) ++ 'U' :: u' := by simp
    _ = s.pair ++ v ++ 'U' :: u' := by rw [hpair]
    _ = s.pair ++ (v ++ 'U' :: u') := List.append_assoc ..

/-- A pair spelled anew at the place of the first match, with any blanks, letter case and rest, is
the first match of the new line. -/
theorem firstMatch_respell {line : Text} {i : Nat} {s : Spelling} (h : FirstMatch line i s)
    (s' : Spelling) : FirstMatch (line.take i ++ s'.written) i s' := by
  obtain ⟨u, hu⟩ := written_eq_cons s
  obtain ⟨u', hu'⟩ := written_eq_cons s'
  have hlt : i < line.length := by
    apply Nat.lt_of_not_le
    intro hle
    have hm := h.1
    rw [MatchAt, List.drop_eq_nil_of_le hle, hu] at hm
    cases hm
  have hlen : (line.take i).length = i := by
    rw [List.length_take, Nat.min_eq_left (Nat.le_of_lt hlt)]
  have hline : line = line.take i ++ 'D' :: 'U' :: u := by
    rw [← hu, ← h.1, List.take_append_drop]
  refine ⟨List.drop_left' hlen, ?_⟩
  intro j hj t ht
  have hleft : (line.take i).drop j ≠ [] := by
    rw [ne_eq, List.drop_eq_nil_iff, hlen]
    exact Nat.not_le.mpr hj
  rw [MatchAt, List.drop_append_of_le_length (by omega), hu'] at ht
  obtain ⟨t', ht'⟩ := exists_written_left hleft ht u
  apply h.2 j hj t'
  rw [MatchAt, hline, List.drop_append_of_le_length (by omega)]
  exact ht'

theorem ofLine_respell {line : Text} {i : Nat} {s s' : Spelling} (h : FirstMatch line i s)
    (hsame : SameLiterals s s') : ofLine (line.take i ++ s'.written) = ofLine line := by
  rw [ofLine_of_firstMatch (firstMatch_respell h s'), ofLine_of_firstMatch h, hsame.1, hsame.2]

/-- **A key is the leftmost pair of its line.** A line with a match has a first one, which can be
taken apart in one way only, and its two literals in lower case are the key; a line without a match
is its own key. So the key of a pair does not change with the blanks inside it, the letter case of
its literals, what follows it, or anything before it that does not bring an earlier match. -/
theorem key_is_leftmost_pair (line : Text) :
    ((∃ i s, MatchAt line i s) → ∃ i s, FirstMatch line i s) ∧
    (∀ i s, FirstMatch line i s →
      ofLine line = .hexPair (Text.lower s.dut.text) (Text.lower s.ref.text) ∧
        IsLowerLiteral (Text.lower s.dut.text) ∧ IsLowerLiteral (Text.lower s.ref.text)) ∧
    (∀ i s s', MatchAt line i s → MatchAt line i s' → s = s') ∧
    ((∀ i s, ¬ MatchAt line i s) → ofLine line = .rawLine line) ∧
    (∀ i s s', FirstMatch line i s → SameLiterals s s' →
      ofLine (line.take i ++ s'.written) = ofLine line) ∧
    (∀ i s line' i' s', FirstMatch line i s → FirstMatch line' i' s' → SameLiterals s s' →
      ofLine line' = ofLine line) := by
  refine ⟨exists_firstMatch, ?_, fun _ _ _ => matchAt_unique, ofLine_of_no_match,
    fun _ _ _ => ofLine_respell, ?_⟩
  · intro i s h
    exact ⟨ofLine_of_firstMatch h, s.dut.lower_text, s.ref.lower_text⟩
  · intro i s line' i' s' h h' hsame
    rw [ofLine_of_firstMatch h, ofLine_of_firstMatch h', hsame.1, hsame.2]

def Blanks.none : Blanks := ⟨[], nofun⟩

def Blanks.space : Blanks := ⟨[' '], List.all_eq_true.mp rfl⟩

/-- A literal with one digit. -/
def Literal.single (sign digit : Char) (hsign : sign = 'x' ∨ sign = 'X')
    (hdigit : Text.isHexDigit digit = true) : Literal :=
  ⟨sign, [digit], hsign, List.cons_ne_nil _ _, List.forall_mem_singleton.mpr hdigit⟩

/-- `DUT = 0x5, REF = 0xA` and a full stop. -/
def spaced : Spelling :=
  ⟨.space, .space, .single 'x' '5' (.inl rfl) rfl, .none, .space, .space, .space,
    .single 'x' 'A' (.inl rfl) rfl, ['.'], stops_cons rfl⟩

/-- `DUT=0X5,REF=0Xa` and nothing else. -/
def tight : Spelling :=
  ⟨.none, .none, .single 'X' '5' (.inr rfl) rfl, .none, .none, .none, .none,
    .single 'X' 'a' (.inr rfl) rfl, [], nofun⟩

theorem firstMatch_of_checks {line : Text} {i : Nat} {s : Spelling} (hat : line.drop i = s.written)
    (hleft : ∀ j < i, pair? (line.drop j) = none) : FirstMatch line i s :=
  ⟨hat, fun j hj => not_matchAt (hleft j hj)⟩

/-- After a near miss the search starts again at the second `DUT`; there the pair can be spelled
anew, or stand in another line. A line with half a pair is its own key. -/
theorem key_after_near_miss :
    FirstMatch "DUT = DUT = 0x5, REF = 0xA.".toList 6 spaced ∧
    ofLine "DUT = DUT = 0x5, REF = 0xA.".toList = .hexPair "0x5".toList "0xa".toList ∧
    SameLiterals spaced tight ∧
    ofLine ("DUT = DUT = 0x5, REF = 0xA.".toList.take 6 ++ tight.written) =
      ofLine "DUT = DUT = 0x5, REF = 0xA.".toList ∧
    ofLine "t=2 DUT=0X5,REF=0Xa".toList = ofLine "DUT = DUT = 0x5, REF = 0xA.".toList ∧
    (∃ i s, FirstMatch "t=2 DUT=0X5,REF=0Xa".toList i s) ∧
    ofLine "DUT = 0x5; REF = 0x1".toList = .rawLine "DUT = 0x5; REF = 0x1".toList := by
  have hfirst : FirstMatch "DUT = DUT = 0x5, REF = 0xA.".toList 6 spaced :=
    firstMatch_of_checks (by decide) (by decide)
  have hother : FirstMatch "t=2 DUT=0X5,REF=0Xa".toList 4 tight :=
    firstMatch_of_checks (by decide) (by decide)
  have hsame : SameLiterals spaced tight := by decide
  have hno : ∀ i s, ¬ MatchAt "DUT = 0x5; REF = 0x1".toList i s :=
    firstPair?_eq_none_iff.mp (by decide)
  obtain ⟨-, hkey, -, -, hrespell, htwo⟩ :=
    key_is_leftmost_pair "DUT = DUT = 0x5, REF = 0xA.".toList
  exact ⟨hfirst, (hkey 6 spaced hfirst).1, hsame, hrespell 6 spaced tight hfirst hsame,
    htwo 6 spaced _ 4 tight hfirst hother hsame,
    (key_is_leftmost_pair _).1 ⟨4, tight, hother.1⟩,
    (key_is_leftmost_pair _).2.2.2.1 hno⟩

end MismatchLog.Key
