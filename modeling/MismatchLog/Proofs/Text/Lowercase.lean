import MismatchLog.Proofs.Utf8.Ascii
import MismatchLog.Text.Lowercase

/-!
# What lower-casing makes of other alphabets

A character beyond ASCII leaves a trace in lower case: a character beyond ASCII again, or the letter k
of the Kelvin sign (`exists_foreign_lowercaseChar`). So for a word of other letters it is the same
whether a text is lower-cased over all of Unicode or over A to Z alone (`lowercase_eq_iff`).
-/

namespace MismatchLog.Text

/-- A character that lower-casing can make of one beyond ASCII. -/
def Foreign (c : Char) : Prop := 0x80 ≤ c.toNat ∨ c = 'k'

instance (c : Char) : Decidable (Foreign c) := inferInstanceAs (Decidable (_ ∨ _))

/-! ## One character -/

/-- All small forms of a run lie beyond ASCII and are characters, unless it is the Kelvin sign. -/
def Capitals.LeadsBeyond (r : Capitals) : Prop :=
  (0x80 ≤ r.first + r.shift ∧ r.last + r.shift < 0xD800) ∨
    (0xDFFF < r.first + r.shift ∧ r.last + r.shift < 0x110000) ∨
    (r.first = 0x212A ∧ r.last = 0x212A ∧ r.shift = 'k'.toNat - 0x212A)

instance (r : Capitals) : Decidable r.LeadsBeyond := inferInstanceAs (Decidable (_ ∨ _))

theorem capitals_leadBeyond : ∀ r ∈ capitals, r.LeadsBeyond := by decide +kernel

theorem Capitals.LeadsBeyond.foreign_small {r : Capitals} (hr : r.LeadsBeyond) {c : Char}
    (hc : r.holds c = true) : Foreign (r.small c) := by
  simp only [holds, Bool.and_eq_true, decide_eq_true_eq] at hc
  obtain ⟨⟨hfirst, hlast⟩, -⟩ := hc
  rcases hr with hlow | hhigh | ⟨hkelvin, hkelvin', hshift⟩
  · left
    rw [small, Utf8.toNat_ofNat_of_valid (by omega)]
    omega
  · left
    rw [small, Utf8.toNat_ofNat_of_valid (by omega)]
    omega
  · right
    have hnat : c.toNat = 0x212A := by omega
    rw [small, hnat, hshift]
    rfl

theorem exists_foreign_lowercaseChar {c : Char} (hc : 0x80 ≤ c.toNat) :
    ∃ d ∈ lowercaseChar c, Foreign d := by
  unfold lowercaseChar
  rw [if_neg (by omega)]
  split
  · exact ⟨'\u0307', by simp, by decide⟩
  · split
    · rename_i r hfind
      have hholds : r.holds c = true := by simpa using List.find?_some hfind
      have hbeyond := capitals_leadBeyond r (List.mem_of_find?_eq_some hfind)
      exact ⟨r.small c, by simp, hbeyond.foreign_small hholds⟩
    · exact ⟨c, by simp, .inl hc⟩

theorem lowercaseChar_of_ascii {c : Char} (hc : c.toNat < 0x80) :
    lowercaseChar c = [c.toLower] := if_pos hc

theorem toLower_of_beyond {c : Char} (hc : 0x80 ≤ c.toNat) : c.toLower = c := by
  have hle : 0x80 ≤ c.val.toNat := hc
  unfold Char.toLower
  rw [dif_neg]
  rintro ⟨-, hz⟩
  have hz : c.val.toNat ≤ 90 := hz
  omega

/-! ## Texts -/

theorem foreign_smallSigma (front behind : Text) : Foreign (smallSigma front behind) := by
  unfold smallSigma
  split <;> decide

/-- A word without foreign characters is the lower case only of texts that are all ASCII. The
induction is on the text; what stands in front matters for a capital sigma alone. -/
theorem lowercaseBehind_eq_iff {w : Text} (hw : ∀ c ∈ w, ¬ Foreign c) (front t : Text) :
    lowercaseBehind front t = w ↔ lower t = w := by
  induction t generalizing front w with
  | nil => rfl
  | cons c t ih =>
    rw [lowercaseBehind]
    by_cases hc : c.toNat < 0x80
    · have hsigma : c ≠ '\u03A3' := by
        rintro rfl
        exact absurd hc (by decide)
      rw [if_neg hsigma, lowercaseChar_of_ascii hc]
      cases w with
      | nil => simp [lower]
      | cons d w =>
        have ih := ih (fun e he => hw e (List.mem_cons_of_mem d he)) (c :: front)
        rw [lower] at ih
        simp [lower, ih]
    · have hbeyond : 0x80 ≤ c.toNat := Nat.le_of_not_lt hc
      refine iff_of_false ?_ ?_
      · rintro rfl
        split at hw
        · exact hw _ (List.mem_append_left _ (List.mem_singleton_self _)) (foreign_smallSigma _ _)
        · obtain ⟨d, hd, hforeign⟩ := exists_foreign_lowercaseChar hbeyond
          exact hw d (List.mem_append_left _ hd) hforeign
      · rintro rfl
        have hmem : c ∈ lower (c :: t) := by
          rw [lower, List.map_cons, toLower_of_beyond hbeyond]
          exact List.mem_cons_self
        exact hw c hmem (.inl hbeyond)

theorem lowercase_eq_iff {w : Text} (hw : ∀ c ∈ w, ¬ Foreign c) (t : Text) :
    lowercase t = w ↔ lower t = w :=
  lowercaseBehind_eq_iff hw [] t

end MismatchLog.Text
