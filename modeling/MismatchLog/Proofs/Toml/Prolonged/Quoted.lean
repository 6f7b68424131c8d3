import MismatchLog.Proofs.Toml.Prolonged.Reader
import MismatchLog.Toml.Quoted

/-!
# Strings in a text that goes on

A string that is closed is read the same, whatever lines follow the text. One that is not closed may
go on in them, so nothing is said of a text that is refused.
-/

namespace MismatchLog.Toml

/-- A character in front of what was read. -/
theorem map_consTo_eq_some {o : Option (Text × Text)} {c : Char} {s rest : Text} :
    o.map (consTo c) = some (s, rest) ↔ ∃ u, s = c :: u ∧ o = some (u, rest) := by
  cases o with
  | none => simp
  | some r =>
    obtain ⟨u, v⟩ := r
    simp only [Option.map_some, consTo, Option.some.injEq, Prod.mk.injEq]
    constructor
    · rintro ⟨rfl, rfl⟩
      exact ⟨u, rfl, rfl, rfl⟩
    · rintro ⟨u, rfl, rfl, rfl⟩
      exact ⟨rfl, rfl⟩

/-! ## Strings on one line -/

theorem basicBody_steady (escape : Option Escape) : Steady (basicBody escape) := by
  intro t s rest h more
  induction t generalizing escape s with
  | nil => cases h
  | cons c t ih =>
    rw [prolong_cons]
    cases escape with
    | some e =>
      rw [basicBody] at h ⊢
      cases hstep : e.step c with
      | none =>
        rw [hstep] at h
        cases h
      | some r =>
        rw [hstep] at h
        cases r with
        | inl e => exact ih _ h
        | inr made =>
          obtain ⟨u, rfl, hu⟩ := map_consTo_eq_some.mp h
          exact map_consTo_eq_some.mpr ⟨u, rfl, ih _ hu⟩
    | none =>
      rw [basicBody] at h ⊢
      split at h
      · rename_i hquote
        rw [if_pos hquote]
        obtain ⟨rfl, rfl⟩ := Prod.mk.inj (Option.some.inj h)
        rfl
      · rename_i hquote
        rw [if_neg hquote]
        split at h
        · rename_i hback
          rw [if_pos hback]
          exact ih _ h
        · rename_i hback
          rw [if_neg hback]
          split at h
          · rename_i hplain
            rw [if_pos hplain]
            obtain ⟨u, rfl, hu⟩ := map_consTo_eq_some.mp h
            exact map_consTo_eq_some.mpr ⟨u, rfl, ih _ hu⟩
          · cases h

theorem literalBody_steady : Steady literalBody := by
  intro t s rest h more
  induction t generalizing s with
  | nil => cases h
  | cons c t ih =>
    rw [prolong_cons]
    rw [literalBody] at h ⊢
    split at h
    · rename_i hquote
      rw [if_pos hquote]
      obtain ⟨rfl, rfl⟩ := Prod.mk.inj (Option.some.inj h)
      rfl
    · rename_i hquote
      rw [if_neg hquote]
      split at h
      · rename_i hplain
        rw [if_pos hplain]
        obtain ⟨u, rfl, hu⟩ := map_consTo_eq_some.mp h
        exact map_consTo_eq_some.mpr ⟨u, rfl, ih hu⟩
      · cases h

/-! ## Strings with lines -/

theorem closing?_exact {quote : Char} (hquote : quote ≠ '\n') : Exact (closing? quote) := by
  intro more t
  have htake := takeWhile_prolong (p := (· = quote)) (by simp [hquote.symm]) more t
  rw [closing?, closing?, htake]
  split
  · have hle : min (t.takeWhile (· = quote)).length 5 ≤ t.length :=
      Nat.le_trans (Nat.min_le_left _ _) (List.takeWhile_prefix _).length_le
    have hdrop : (prolong more t).drop (min (t.takeWhile (· = quote)).length 5) =
        prolong more (t.drop (min (t.takeWhile (· = quote)).length 5)) :=
      List.drop_append_of_le_length hle
    rw [hdrop]
    rfl
  · rfl

/-- A character that may be the first of the closing quotes. -/
def Place.mayClose : Place → Char → Bool
  | .plain, _ => true
  | .margin, c => c ≠ '\n' && !isBlank c
  | _, _ => false

/-- A character of the string itself, or a backslash. -/
def readPlain (quote c : Char) : Option (Place × Option Char) :=
  if c = '\\' && quote = '"' then some (.escape .letter, none)
  else if c = '\n' || isPlain c then some (.plain, some c)
  else none

/-- The place behind a character, and the character of the string that is complete then, if there is
one. -/
def Place.read (quote : Char) : Place → Char → Option (Place × Option Char)
  | .escape e, c =>
    if c = '\n' && e = .letter then some (.margin, none)
    else if isBlank c && e = .letter then some (.lineEnd, none)
    else match e.step c with
      | some (.inl e) => some (.escape e, none)
      | some (.inr made) => some (.plain, some made)
      | none => none
  | .lineEnd, c =>
    if c = '\n' then some (.margin, none)
    else if isBlank c then some (.lineEnd, none)
    else none
  | .margin, c => if c = '\n' || isBlank c then some (.margin, none) else readPlain quote c
  | .plain, c => readPlain quote c

/-- Puts a character in front of what was read, if there is one. -/
def addTo (made : Option Char) (r : Text × Text) : Text × Text := (made.toList ++ r.1, r.2)

theorem isBeforeLineEnd_escape (e : Escape) :
    (Place.escape e).isBeforeLineEnd = decide (e = .letter) := by
  cases e <;> rfl

theorem map_addTo_none (o : Option (Text × Text)) : o.map (addTo none) = o := by
  cases o <;> rfl

section
variable {quote c : Char} {t : Text}

theorem bind_readPlain :
    ((readPlain quote c).bind fun r => (linesBody quote r.1 t).map (addTo r.2)) =
      if c = '\\' && quote = '"' then linesBody quote (.escape .letter) t
      else if c = '\n' || isPlain c then (linesBody quote .plain t).map (consTo c)
      else none := by
  unfold readPlain
  split
  · exact map_addTo_none _
  · split <;> rfl

-- the equation for two characters at once is excluded
variable (hpair : ∀ u, c = '\r' → t = '\n' :: u → False)
include hpair

/-- Behind a backslash the string is not closed. -/
theorem linesBody_escape (e : Escape) : linesBody quote (.escape e) (c :: t) =
    ((Place.escape e).read quote c).bind fun r => (linesBody quote r.1 t).map (addTo r.2) := by
  have hmade (made : Char) : addTo (some made) = consTo made := rfl
  rw [linesBody]
  · by_cases hend : e = .letter ∧ (c = '\n' ∨ isBlank c = true)
    · obtain ⟨rfl, hend⟩ := hend
      by_cases hnewline : c = '\n'
      · simp [Place.isBeforeLineEnd, Place.read, hnewline, map_addTo_none]
      · have hblank := hend.resolve_left hnewline
        simp [Place.isBeforeLineEnd, Place.read, hnewline, hblank, map_addTo_none]
    · have hnewline : ¬(c = '\n' ∧ e = .letter) := fun h => hend ⟨h.2, .inl h.1⟩
      have hblank : ¬(isBlank c = true ∧ e = .letter) := fun h => hend ⟨h.2, .inr h.1⟩
      rcases hstep : e.step c with _ | (e' | made) <;>
        simp [isBeforeLineEnd_escape, Place.read, hnewline, hblank, hstep, map_addTo_none, hmade]
  · exact hpair

/-- A string with lines is read character by character. -/
theorem linesBody_cons {place : Place} : linesBody quote place (c :: t) =
    if place.mayClose c && (closing? quote (c :: t)).isSome then closing? quote (c :: t)
    else (place.read quote c).bind fun r => (linesBody quote r.1 t).map (addTo r.2) := by
  cases place with
  | escape e => exact linesBody_escape hpair e
  | lineEnd =>
    rw [linesBody]
    · by_cases hnewline : c = '\n'
      · simp [Place.isBeforeLineEnd, Place.mayClose, Place.read, hnewline, map_addTo_none]
      · by_cases hblank : isBlank c = true
        · simp [Place.isBeforeLineEnd, Place.mayClose, Place.read, hnewline, hblank, map_addTo_none]
        · simp [Place.mayClose, Place.read, hnewline, hblank]
    · exact hpair
  | margin =>
    rw [linesBody]
    · by_cases hnewline : c = '\n'
      · simp [Place.mayClose, Place.read, hnewline, map_addTo_none]
      · by_cases hblank : isBlank c = true
        · simp [Place.isBeforeLineEnd, Place.mayClose, Place.read, hnewline, hblank, map_addTo_none]
        · cases hclose : closing? quote (c :: t) with
          | some r => simp [Place.mayClose, hnewline, hblank]
          | none =>
            simp only [Place.mayClose, Place.read, hnewline, hblank, Option.isSome_none,
              Bool.and_false, decide_false, Bool.false_or, Bool.false_eq_true, if_false]
            rw [bind_readPlain]
            simp [hnewline]
    · exact hpair
  | plain =>
    rw [linesBody]
    · cases hclose : closing? quote (c :: t) with
      | some r => simp [Place.isBeforeLineEnd, Place.mayClose]
      | none =>
        simp only [Place.mayClose, Place.read, Option.isSome_none, Bool.and_false]
        rw [bind_readPlain]
        simp [Place.isBeforeLineEnd]
    · exact hpair

end

theorem linesBody_singleton (quote : Char) (place : Place) (c : Char) :
    linesBody quote place [c] = none := by
  have hclose : closing? quote [c] = none := by
    have hlength : ([c].takeWhile (· = quote)).length ≤ [c].length :=
      (List.takeWhile_prefix _).length_le
    rw [List.length_singleton] at hlength
    rw [closing?, if_neg]
    omega
  rw [linesBody_cons fun u _ h => List.cons_ne_nil _ u h.symm, hclose, Option.isSome_none,
    Bool.and_false, if_neg (by decide)]
  cases place.read quote c <;> rfl

/-- What is read of this text is read of it with more lines, too. -/
def SteadyAt (f : Text → Option (Text × Text)) (t : Text) : Prop :=
  ∀ ⦃s rest⦄, f t = some (s, rest) → ∀ more, f (prolong more t) = some (s, prolong more rest)

section
variable {quote : Char} (hquote : quote ≠ '\n')

theorem linesBody_break {t : Text} (ih : ∀ place, SteadyAt (linesBody quote place) t)
    (place : Place) : SteadyAt (linesBody quote place) ('\r' :: '\n' :: t) := by
  intro s rest h more
  rw [prolong_cons, prolong_cons]
  rw [linesBody] at h ⊢
  split at h
  · rename_i hskip
    rw [if_pos hskip]
    exact ih _ h more
  · rename_i hskip
    rw [if_neg hskip]
    split at h
    · rename_i hplain
      rw [if_pos hplain]
      obtain ⟨u, rfl, hu⟩ := map_consTo_eq_some.mp h
      exact map_consTo_eq_some.mpr ⟨u, rfl, ih _ hu more⟩
    · cases h

include hquote

theorem linesBody_character {c d : Char} {t : Text} (hpair : ¬(c = '\r' ∧ d = '\n'))
    (ih : ∀ place, SteadyAt (linesBody quote place) (d :: t)) (place : Place) :
    SteadyAt (linesBody quote place) (c :: d :: t) := by
  intro s rest h more
  have hne {v : Text} (u : Text) (hc : c = '\r') (hd : d :: v = '\n' :: u) : False :=
    hpair ⟨hc, (List.cons.inj hd).1⟩
  have hclose := closing?_exact hquote more (c :: d :: t)
  rw [prolong_cons, prolong_cons] at hclose ⊢
  rw [linesBody_cons hne] at h ⊢
  rw [hclose, Option.isSome_map]
  split at h
  · rename_i hend
    rw [if_pos hend, h]
    rfl
  · rename_i hend
    rw [if_neg hend]
    cases hread : place.read quote c with
    | none =>
      rw [hread] at h
      cases h
    | some r =>
      rw [hread, Option.bind_some] at h
      obtain ⟨⟨u, v⟩, hu, heq⟩ := Option.map_eq_some_iff.mp h
      obtain ⟨rfl, rfl⟩ := Prod.mk.inj heq
      rw [Option.bind_some, ← prolong_cons, ih _ hu more]
      rfl

/-- The induction is on the length, because the two characters of a break are read at once. -/
theorem linesBody_steadyAt (t : Text) (place : Place) : SteadyAt (linesBody quote place) t := by
  induction hn : t.length using Nat.strongRecOn generalizing t place with
  | _ n ih =>
    subst hn
    match t with
    | [] => exact nofun
    | [c] =>
      intro s rest h
      rw [linesBody_singleton] at h
      cases h
    | c :: d :: t =>
      by_cases hpair : c = '\r' ∧ d = '\n'
      · obtain ⟨rfl, rfl⟩ := hpair
        exact linesBody_break (fun place => ih t.length (by simp only [List.length_cons]; omega) t
          place rfl) place
      · exact linesBody_character hquote hpair
          (fun place => ih (d :: t).length (by simp) (d :: t) place rfl) place

theorem linesBody_steady (place : Place) : Steady (linesBody quote place) :=
  fun t => linesBody_steadyAt hquote t place

end

theorem newline?_of_ne {c : Char} (hfeed : c ≠ '\n') {t : Text}
    (hpair : ∀ u, c = '\r' → t ≠ '\n' :: u) : newline? (c :: t) = none := by
  rw [newline?]
  · simp [hfeed]
  · intro u h
    obtain ⟨hc, ht⟩ := List.cons.inj h
    exact hpair u hc ht

/-- A text that breaks off within the end of a line is excluded. -/
theorem skipNewline_prolong {t : Text} (ht : t ≠ []) (hreturn : t ≠ ['\r']) (more : Text) :
    skipNewline (prolong more t) = prolong more (skipNewline t) := by
  cases t with
  | nil => exact absurd rfl ht
  | cons c t =>
    by_cases hfeed : c = '\n'
    · subst hfeed
      rfl
    · by_cases hpair : ∃ u, c = '\r' ∧ t = '\n' :: u
      · obtain ⟨u, rfl, rfl⟩ := hpair
        rfl
      · have hnone : newline? (c :: t) = none :=
          newline?_of_ne hfeed fun u hc h => hpair ⟨u, hc, h⟩
        have hnone' : newline? (prolong more (c :: t)) = none := by
          refine newline?_of_ne hfeed fun u hc h => ?_
          subst hc
          cases t with
          | nil => exact hreturn rfl
          | cons d t => exact hpair ⟨t, rfl, by rw [(List.cons.inj h).1]⟩
        rw [skipNewline, skipNewline, hnone, hnone']
        rfl

theorem lines_steady {quote : Char} (hquote : quote ≠ '\n') :
    Steady fun t => linesBody quote .plain (skipNewline t) := by
  intro t s rest h more
  have ht : t ≠ [] := by
    rintro rfl
    cases h
  have hreturn : t ≠ ['\r'] := by
    rintro rfl
    exact absurd h (by simp [skipNewline, newline?, linesBody_singleton])
  simp only
  rw [skipNewline_prolong ht hreturn]
  exact linesBody_steady hquote .plain h more

theorem string?_steady : Steady string? := by
  intro t s rest h more
  unfold string? at h
  split at h
  · exact lines_steady (by decide) h more
  · rename_i t hne
    rw [prolong_cons, string?]
    · exact basicBody_steady none h more
    · intro u hu
      obtain ⟨v, rfl, -⟩ := (prolong_eq_append_iff (w := ['"', '"']) (by decide)).mp hu
      exact hne v rfl
  · exact lines_steady (by decide) h more
  · rename_i t hne
    rw [prolong_cons, string?]
    · exact literalBody_steady h more
    · intro u hu
      obtain ⟨v, rfl, -⟩ := (prolong_eq_append_iff (w := ['\'', '\'']) (by decide)).mp hu
      exact hne v rfl
  · cases h

end MismatchLog.Toml
