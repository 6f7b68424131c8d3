import MismatchLog.Proofs.Key.Spelling
import MismatchLog.Proofs.Toml.Prolonged.Reader
import MismatchLog.Toml.Number

/-!
# Numbers in a text that goes on

No number, date or time reaches beyond its line, so to their readers lines behind the text make no
difference: they read the same, and they refuse the same.
-/

namespace MismatchLog.Toml

/-! ## Signs and digits -/

theorem sign_prolong (more t : Text) : sign (prolong more t) = behind more (sign t) := by
  cases t with
  | nil => rfl
  | cons c t =>
    by_cases hplus : c = '+'
    · subst hplus; rfl
    · by_cases hminus : c = '-'
      · subst hminus; rfl
      · rw [prolong_cons, sign, sign]
        · rfl
        all_goals simp [hplus, hminus]

/-- A class that neither the end of a line nor an underscore belongs to. -/
structure IsDigitClass (p : Char → Bool) : Prop where
  newline : p '\n' = false
  underscore : p '_' = false

theorem isDigitClass_isDigit : IsDigitClass Char.isDigit := ⟨by decide, by decide⟩

theorem isDigitClass_isHexDigit : IsDigitClass Text.isHexDigit := ⟨by decide, by decide⟩

theorem isDigitClass_isOctal : IsDigitClass isOctal := ⟨by decide, by decide⟩

theorem isDigitClass_isBinary : IsDigitClass isBinary := ⟨by decide, by decide⟩

section
variable {p : Char → Bool} (hp : IsDigitClass p)
include hp

theorem digits_prolong (more t : Text) : digits p (prolong more t) = behind more (digits p t) := by
  fun_induction digits p t with
  | case1 c rest hc r ih =>
    rw [prolong_cons, prolong_cons, digits, if_pos hc, ih]
    rfl
  | case2 c rest hc =>
    rw [prolong_cons, prolong_cons, digits, if_neg hc]
    rfl
  | case3 c rest hne hc r ih =>
    have hunder : c ≠ '_' := by
      rintro rfl
      simp [hp.underscore] at hc
    rw [prolong_cons, digits]
    · rw [if_pos hc, ih]
      rfl
    · exact fun _ _ h _ => hunder h
  | case4 c rest hne hc =>
    by_cases hunder : c = '_'
    · subst hunder
      -- an underscore with something behind it is another case
      cases rest with
      | nil =>
        rw [prolong_cons, prolong_nil, digits, hp.newline]
        rfl
      | cons d rest => exact absurd rfl (hne d rest rfl)
    · rw [prolong_cons, digits]
      · rw [if_neg hc]
        rfl
      · exact fun _ _ h _ => hunder h
  | case5 =>
    rw [prolong_nil, digits]
    · rw [hp.newline]
      rfl
    · exact fun _ _ h _ => absurd h (by decide)

theorem digits?_exact : Exact (digits? p) := by
  intro more t
  cases t with
  | nil => rw [prolong_nil, digits?, hp.newline]; rfl
  | cons c t =>
    have hdigits := digits_prolong hp more (c :: t)
    rw [prolong_cons] at hdigits
    rw [prolong_cons, digits?, digits?, hdigits]
    split <;> rfl

theorem based?_exact (base : Nat) : Exact (based? p base) := by
  intro more t
  rw [based?, based?, digits?_exact hp]
  refine bind_commute fun r => ?_
  exact bind_behind _ _ _

end

theorem decimalDigits?_exact : Exact decimalDigits? := by
  intro more t
  by_cases hzero : ∃ rest, t = '0' :: rest
  · obtain ⟨rest, rfl⟩ := hzero
    rfl
  · have hdigits := digits?_exact isDigitClass_isDigit more t
    rw [decimalDigits?, decimalDigits?]
    · exact hdigits
    · exact fun rest h => hzero ⟨rest, h⟩
    · intro rest h
      obtain ⟨u, rfl, -⟩ := (prolong_eq_append_iff (w := ['0']) (by decide)).mp h
      exact hzero ⟨u, rfl⟩

/-! ## Integers -/

/-- An integer in decimal notation. -/
def decimalInteger? (t : Text) : Option (Int × Text) := do
  let (sgn, rest) := sign t
  let (ds, rest) ← decimalDigits? rest
  let n : Int := Text.ofDigits 10 ds
  let n ← inRange? (if sgn = some '-' then -n else n)
  return (n, rest)

theorem decimalInteger?_exact : Exact decimalInteger? := by
  intro more t
  rw [decimalInteger?, decimalInteger?, sign_prolong]
  simp only [behind]
  rw [decimalDigits?_exact]
  refine bind_commute fun r => ?_
  exact bind_behind _ _ _

theorem integer?_decimal {t : Text} (h : ∀ d ∈ ['x', 'o', 'b'], ∀ rest, t ≠ '0' :: d :: rest) :
    integer? t = decimalInteger? t := by
  rw [integer?]
  · rfl
  · exact h 'x' (by decide)
  · exact h 'o' (by decide)
  · exact h 'b' (by decide)

theorem integer?_exact : Exact integer? := by
  intro more t
  by_cases hbase : ∃ d ∈ ['x', 'o', 'b'], ∃ rest, t = '0' :: d :: rest
  · obtain ⟨d, hd, rest, rfl⟩ := hbase
    simp only [List.mem_cons, List.not_mem_nil, or_false] at hd
    rcases hd with rfl | rfl | rfl
    · exact based?_exact isDigitClass_isHexDigit 16 more rest
    · exact based?_exact isDigitClass_isOctal 8 more rest
    · exact based?_exact isDigitClass_isBinary 2 more rest
  · rw [integer?_decimal, integer?_decimal, decimalInteger?_exact]
    · exact fun d hd rest h => hbase ⟨d, hd, rest, h⟩
    · intro d hd rest h
      have hw : '\n' ∉ ['0', d] := by
        have hbases : ∀ d ∈ ['x', 'o', 'b'], '\n' ∉ ['0', d] := by simp
        exact hbases d hd
      obtain ⟨u, rfl, -⟩ := (prolong_eq_append_iff hw).mp h
      exact hbase ⟨d, hd, u, rfl⟩

/-! ## Fractions and exponents -/

theorem exponent?_exact : Exact exponent? := by
  intro more t
  cases t with
  | nil => rfl
  | cons c t =>
    rw [prolong_cons, exponent?, exponent?]
    split
    · rw [sign_prolong]
      simp only [behind]
      rw [digits?_exact isDigitClass_isDigit]
      exact bind_commute fun r => rfl
    · rfl

/-- What stands behind the whole part of a number: the digits of the fraction and the exponent. -/
def fraction? (t : Text) : Option ((Text × Int) × Text) :=
  match t with
  | '.' :: t => do
    let (fraction, t) ← digits? Char.isDigit t
    match t with
    | c :: _ =>
      if c = 'e' ∨ c = 'E' then do
        let (e, rest) ← exponent? t
        pure ((fraction, e), rest)
      else pure ((fraction, 0), t)
    | [] => pure ((fraction, 0), t)
  | t => do
    let (e, rest) ← exponent? t
    pure (([], e), rest)

theorem fraction?_exact : Exact fraction? := by
  intro more t
  by_cases hdot : ∃ rest, t = '.' :: rest
  · obtain ⟨rest, rfl⟩ := hdot
    rw [prolong_cons, fraction?, fraction?, digits?_exact isDigitClass_isDigit]
    refine bind_commute fun r => ?_
    obtain ⟨ds, t⟩ := r
    simp only [behind]
    cases t with
    | nil => rfl
    | cons c t =>
      simp only [prolong_cons]
      split
      · rw [← prolong_cons, exponent?_exact]
        exact bind_commute fun r => rfl
      · rfl
  · rw [fraction?, fraction?]
    · rw [exponent?_exact]
      exact bind_commute fun r => rfl
    · exact fun rest h => hdot ⟨rest, h⟩
    · intro rest h
      obtain ⟨u, rfl, -⟩ := (prolong_eq_append_iff (w := ['.']) (by decide)).mp h
      exact hdot ⟨u, rfl⟩

/-- A number that is not too great for the format. -/
def finite? (x : Binary64) (rest : Text) : Option (Binary64 × Text) :=
  if x = .infinite false then none else some (x, rest)

theorem finite?_prolong (x : Binary64) (more rest : Text) :
    finite? x (prolong more rest) = (finite? x rest).map (behind more) := by
  unfold finite?
  split <;> rfl

theorem decimalFloat?_eq (t : Text) : decimalFloat? t =
    (decimalDigits? (sign t).2).bind fun whole => (fraction? whole.2).bind fun r =>
      finite? (Binary64.ofDecimal ((sign t).1 = some '-') (Text.ofDigits 10 (whole.1 ++ r.1.1))
        (r.1.2 - r.1.1.length)) r.2 := by
  rw [decimalFloat?]
  simp only [Option.bind_eq_bind]
  congr 1
  funext whole
  obtain ⟨ds, t⟩ := whole
  by_cases hdot : ∃ rest, t = '.' :: rest
  · obtain ⟨rest, rfl⟩ := hdot
    simp only [fraction?, Option.bind_eq_bind, Option.bind_assoc]
    congr 1
    funext r
    obtain ⟨fraction, t⟩ := r
    cases t with
    | nil => rfl
    | cons c t =>
      simp only
      split
      · simp only [Option.bind_assoc]
        rfl
      · rfl
  · have hdot' : ∀ rest, t ≠ '.' :: rest := fun rest h => hdot ⟨rest, h⟩
    rw [fraction?]
    · simp only [Option.bind_eq_bind, Option.bind_assoc]
      rfl
    · exact hdot'

theorem decimalFloat?_exact : Exact decimalFloat? := by
  intro more t
  rw [decimalFloat?_eq, decimalFloat?_eq, sign_prolong]
  simp only [behind]
  rw [decimalDigits?_exact]
  refine bind_commute fun whole => ?_
  simp only [behind]
  rw [fraction?_exact]
  exact bind_commute fun r => finite?_prolong _ more r.2

theorem specialFloat?_exact : Exact specialFloat? := by
  intro more t
  rw [specialFloat?, specialFloat?, sign_prolong]
  obtain ⟨sgn, t⟩ := sign t
  simp only [behind]
  by_cases hinf : ∃ rest, t = 'i' :: 'n' :: 'f' :: rest
  · obtain ⟨rest, rfl⟩ := hinf
    rfl
  · by_cases hnan : ∃ rest, t = 'n' :: 'a' :: 'n' :: rest
    · obtain ⟨rest, rfl⟩ := hnan
      rfl
    · have hinf' (rest : Text) : prolong more t ≠ ['i', 'n', 'f'] ++ rest := by
        intro h
        obtain ⟨u, hu, -⟩ := (prolong_eq_append_iff (by decide)).mp h
        exact hinf ⟨u, hu⟩
      have hnan' (rest : Text) : prolong more t ≠ ['n', 'a', 'n'] ++ rest := by
        intro h
        obtain ⟨u, hu, -⟩ := (prolong_eq_append_iff (by decide)).mp h
        exact hnan ⟨u, hu⟩
      split
      · rename_i heq
        exact absurd (Prod.mk.inj heq).2 (hinf' _)
      · rename_i heq
        exact absurd (Prod.mk.inj heq).2 (hnan' _)
      · split
        · rename_i heq
          exact absurd ⟨_, (Prod.mk.inj heq).2⟩ hinf
        · rename_i heq
          exact absurd ⟨_, (Prod.mk.inj heq).2⟩ hnan
        · rfl

/-! ## Moments -/

theorem after?_exact {w : Text} (hw : '\n' ∉ w) : ExactSkip (Text.after? w) := by
  intro more t
  ext u
  simp only [Option.map_eq_some_iff, Key.after?_eq_some_iff, prolong_eq_append_iff hw]
  constructor
  · rintro ⟨v, rfl, rfl⟩
    exact ⟨v, rfl, rfl⟩
  · rintro ⟨v, rfl, rfl⟩
    exact ⟨v, rfl, rfl⟩

theorem fixed?_exact (n low high : Nat) : Exact (fixed? n low high) := by
  intro more t
  simp only [fixed?]
  by_cases hlong : n ≤ t.length
  · have htake : (prolong more t).take n = t.take n := List.take_append_of_le_length hlong
    have hdrop : (prolong more t).drop n = prolong more (t.drop n) :=
      List.drop_append_of_le_length hlong
    rw [htake, hdrop]
    split <;> rfl
  · rw [if_neg, if_neg]
    · rfl
    · rintro ⟨hlength, -⟩
      rw [List.length_take] at hlength
      omega
    · rintro ⟨-, hdigits, -⟩
      have hmem : '\n' ∈ (prolong more t).take n := by
        obtain ⟨k, hk⟩ : ∃ k, n - t.length = k + 1 := ⟨n - t.length - 1, by omega⟩
        rw [prolong, List.take_append, hk, List.take_succ_cons]
        exact List.mem_append_right _ List.mem_cons_self
      exact absurd (List.all_eq_true.mp hdigits _ hmem) (by decide)

theorem date?_exact : ExactSkip date? := by
  intro more t
  rw [date?, date?, fixed?_exact]
  refine bind_commute fun year => ?_
  simp only [behind]
  rw [after?_exact (by decide)]
  refine bind_commute fun t => ?_
  rw [fixed?_exact]
  refine bind_commute fun month => ?_
  simp only [behind]
  rw [after?_exact (by decide)]
  refine bind_commute fun t => ?_
  rw [fixed?_exact]
  exact bind_commute fun day => rfl

/-- Skips the fraction of a second. -/
def skipFraction : Text → Text
  | '.' :: c :: rest => if c.isDigit then rest.dropWhile Char.isDigit else '.' :: c :: rest
  | t => t

theorem skipFraction_of_ne {c : Char} (hc : c ≠ '.') (t : Text) :
    skipFraction (c :: t) = c :: t := by
  rw [skipFraction]
  exact fun _ _ h => absurd (List.cons.inj h).1 hc

theorem skipFraction_prolong (more t : Text) :
    skipFraction (prolong more t) = prolong more (skipFraction t) := by
  cases t with
  | nil => exact skipFraction_of_ne (by decide) more
  | cons c t =>
    by_cases hdot : c = '.'
    · subst hdot
      cases t with
      | nil => rfl
      | cons d t =>
        rw [prolong_cons, prolong_cons, skipFraction, skipFraction]
        split
        · exact dropWhile_prolong (by decide) more t
        · rfl
    · rw [prolong_cons, skipFraction_of_ne hdot, skipFraction_of_ne hdot]
      rfl

theorem time?_eq (t : Text) : time? t = do
    let (_, t) ← fixed? 2 0 23 t
    let (_, t) ← fixed? 2 0 59 (← Text.after? [':'] t)
    let (_, t) ← fixed? 2 0 60 (← Text.after? [':'] t)
    return skipFraction t := by
  rw [time?]
  simp only [Option.bind_eq_bind]
  congr 1; funext hour
  congr 1; funext t
  congr 1; funext minute
  congr 1; funext t
  congr 1; funext second
  obtain ⟨_, t⟩ := second
  dsimp only
  split
  · rename_i c rest
    rw [skipFraction]
    split <;> rfl
  · rename_i hne
    rw [skipFraction]
    exact hne

theorem time?_exact : ExactSkip time? := by
  intro more t
  rw [time?_eq, time?_eq, fixed?_exact]
  refine bind_commute fun hour => ?_
  simp only [behind]
  rw [after?_exact (by decide)]
  refine bind_commute fun t => ?_
  rw [fixed?_exact]
  refine bind_commute fun minute => ?_
  simp only [behind]
  rw [after?_exact (by decide)]
  refine bind_commute fun t => ?_
  rw [fixed?_exact]
  refine bind_commute fun second => ?_
  simp only [behind]
  exact congrArg some (skipFraction_prolong more second.2)

theorem skipOffset_exact : ExactSkip skipOffset := by
  intro more t
  cases t with
  | nil => rfl
  | cons c t =>
    by_cases hupper : c = 'Z'
    · subst hupper
      rfl
    · by_cases hlower : c = 'z'
      · subst hlower
        rfl
      · rw [prolong_cons, skipOffset, skipOffset]
        · split
          · rw [fixed?_exact]
            refine bind_commute fun hour => ?_
            simp only [behind]
            rw [after?_exact (by decide)]
            refine bind_commute fun t => ?_
            rw [fixed?_exact]
            exact bind_commute fun minute => rfl
          · rfl
        all_goals simp [hupper, hlower]

theorem moment?_exact : ExactSkip moment? := by
  intro more t
  rw [moment?, moment?, date?_exact]
  cases date? t with
  | none => exact time?_exact more t
  | some rest =>
    cases rest with
    | nil => rfl
    | cons c after =>
      simp only [Option.map_some, prolong_cons]
      split
      · rw [time?_exact]
        cases time? after with
        | none => rfl
        | some rest => exact skipOffset_exact more rest
      · rfl

theorem number?_exact : Exact number? := by
  intro more t
  rw [number?, number?, moment?_exact]
  cases moment? t with
  | some rest => rfl
  | none =>
    rw [decimalFloat?_exact, specialFloat?_exact, integer?_exact]
    cases decimalFloat? t with
    | some r => rfl
    | none =>
      cases specialFloat? t with
      | some r => rfl
      | none => cases integer? t <;> rfl

end MismatchLog.Toml
