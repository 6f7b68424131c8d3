import MismatchLog.Text.Utf8
import Mathlib.Tactic.Ring

/-!
# Bytes below 0x80 pass through decoding

Decoding is a machine over bytes, and a character may be begun when a byte arrives. `Begun.Sound` is
what the machine keeps about a begun character: it can only become a character beyond ASCII. So

* `step_ascii`: a byte below 0x80 replaces what is begun, if anything, and stands for itself;
* `step_beyond`: any other byte settles only characters beyond ASCII;
* `decodeFrom_append_ascii`: so decoding starts anew after a byte below 0x80;
* `infix_decode_iff`: a word of bytes below 0x80 occurs in a byte string exactly if it occurs, as
  characters, in what the string decodes to.
-/

namespace MismatchLog.Utf8

/-- The character of a byte below 0x80. -/
def asciiChar (b : UInt8) : Char := Char.ofNat b.toNat

/-- What a begun character leaves behind when it is not completed. -/
def pending : Option Begun → Text
  | none => []
  | some _ => [replacement]

namespace Begun

/-- The least number that a begun character can still become. -/
def least (p : Begun) : Nat := (p.bits * 64 + (p.low.toNat - 0x80)) * 64 ^ (p.owed - 1)

/-- The greatest number that a begun character can still become. -/
def greatest (p : Begun) : Nat :=
  (p.bits * 64 + (p.high.toNat - 0x80)) * 64 ^ (p.owed - 1) + (64 ^ (p.owed - 1) - 1)

/-- Whatever follows, a begun character becomes one beyond ASCII, and only by bytes beyond ASCII. -/
structure Sound (p : Begun) : Prop where
  low : 0x80 ≤ p.low.toNat
  beyond : 0x80 ≤ p.least
  valid : p.greatest < 0xD800 ∨ (0xDFFF < p.least ∧ p.greatest < 0x110000)

end Begun

/-- A character that is begun is sound. -/
def SoundState (s : Option Begun) : Prop := ∀ p, s = some p → p.Sound

theorem soundState_none : SoundState none := nofun

theorem soundState_some {p : Begun} (hp : p.Sound) : SoundState (some p) := by
  intro q hq
  exact Option.some.inj hq ▸ hp

/-! ## The first byte of a character -/

theorem start_ascii {b : UInt8} (hb : b < 0x80) : start b = ([asciiChar b], none) := by
  rw [start, if_pos hb, asciiChar]

theorem start_beyond {b : UInt8} (hb : ¬ b < 0x80) : ∀ c ∈ (start b).1, 0x80 ≤ c.toNat := by
  unfold start
  rw [if_neg hb]
  repeat' split
  all_goals simp [replacement]

theorem start_sound (b : UInt8) : SoundState (start b).2 := by
  unfold start
  simp only [UInt8.lt_iff_toNat_lt, UInt8.le_iff_toNat_le, ← UInt8.toNat_inj, UInt8.reduceToNat]
  repeat' split
  all_goals first
    | exact soundState_none
    | apply soundState_some
      constructor <;> simp only [Begun.least, Begun.greatest, UInt8.reduceToNat, Nat.reduceSub,
        Nat.reducePow] <;> omega

/-! ## The bytes that follow -/

/-- The bits of a begun character with one more byte. -/
def Begun.more (p : Begun) (b : UInt8) : Nat := p.bits * 64 + (b.toNat - 0x80)

/-- A byte in its range narrows what a begun character can become. -/
theorem Begun.more_between (p : Begun) {b : UInt8} (hlow : p.low ≤ b) (hhigh : b ≤ p.high) :
    p.least ≤ p.more b * 64 ^ (p.owed - 1) ∧
      p.more b * 64 ^ (p.owed - 1) + (64 ^ (p.owed - 1) - 1) ≤ p.greatest := by
  rw [UInt8.le_iff_toNat_le] at hlow hhigh
  constructor
  · apply Nat.mul_le_mul_right
    unfold more
    omega
  · apply Nat.add_le_add_right
    apply Nat.mul_le_mul_right
    unfold more
    omega

theorem toNat_ofNat_of_valid {n : Nat} (h : n < 0xD800 ∨ (0xDFFF < n ∧ n < 0x110000)) :
    (Char.ofNat n).toNat = n := by
  rw [Char.ofNat, dif_pos h]
  rfl

theorem Begun.Sound.completed {p : Begun} (hp : p.Sound) {b : UInt8} (hlow : p.low ≤ b)
    (hhigh : b ≤ p.high) (howed : p.owed ≤ 1) : 0x80 ≤ (Char.ofNat (p.more b)).toNat := by
  obtain ⟨hleast, hgreatest⟩ := p.more_between hlow hhigh
  obtain ⟨-, hbeyond, hvalid⟩ := hp
  rw [Nat.sub_eq_zero_of_le howed] at hleast hgreatest
  rw [toNat_ofNat_of_valid (by omega)]
  omega

theorem Begun.Sound.continued {p : Begun} (hp : p.Sound) {b : UInt8} (hlow : p.low ≤ b)
    (hhigh : b ≤ p.high) (howed : ¬ p.owed ≤ 1) : Sound ⟨p.more b, p.owed - 1, 0x80, 0xBF⟩ := by
  obtain ⟨hleast, hgreatest⟩ := p.more_between hlow hhigh
  obtain ⟨-, hbeyond, hvalid⟩ := hp
  obtain ⟨n, hn⟩ : ∃ n, p.owed - 1 = n + 1 := ⟨p.owed - 2, by omega⟩
  have hnext : least ⟨p.more b, n + 1, 0x80, 0xBF⟩ = p.more b * 64 ^ (n + 1) := by
    simp only [least, UInt8.reduceToNat, Nat.add_sub_cancel, Nat.sub_self]
    ring
  have hlast : greatest ⟨p.more b, n + 1, 0x80, 0xBF⟩ =
      p.more b * 64 ^ (n + 1) + (64 ^ (n + 1) - 1) := by
    simp only [greatest, UInt8.reduceToNat, Nat.add_sub_cancel, Nat.reduceSub]
    have hpos : 0 < 64 ^ n := Nat.pow_pos (by decide)
    rw [Nat.add_mul, Nat.pow_succ, Nat.mul_assoc, Nat.mul_comm 64 (64 ^ n)]
    omega
  rw [hn] at hleast hgreatest ⊢
  exact ⟨Nat.le_refl _, by omega, by omega⟩

theorem step_within {p : Begun} {b : UInt8} (h : p.low ≤ b ∧ b ≤ p.high) :
    step (some p) b = if p.owed ≤ 1 then ([Char.ofNat (p.more b)], none)
      else ([], some ⟨p.more b, p.owed - 1, 0x80, 0xBF⟩) := by
  rw [step, if_pos h]
  rfl

theorem step_outside {p : Begun} {b : UInt8} (h : ¬ (p.low ≤ b ∧ b ≤ p.high)) :
    step (some p) b = (replacement :: (start b).1, (start b).2) := by
  rw [step, if_neg h]

theorem step_ascii {s : Option Begun} (hs : SoundState s) {b : UInt8} (hb : b < 0x80) :
    step s b = (pending s ++ [asciiChar b], none) := by
  cases s with
  | none => exact start_ascii hb
  | some p =>
    have hlow := (hs p rfl).low
    have hlt : b.toNat < 0x80 := hb
    have hout : ¬ (p.low ≤ b ∧ b ≤ p.high) := by
      rw [UInt8.le_iff_toNat_le]
      omega
    rw [step_outside hout, start_ascii hb]
    rfl

theorem step_beyond {s : Option Begun} (hs : SoundState s) {b : UInt8} (hb : ¬ b < 0x80) :
    ∀ c ∈ (step s b).1, 0x80 ≤ c.toNat := by
  cases s with
  | none => exact start_beyond hb
  | some p =>
    by_cases hrange : p.low ≤ b ∧ b ≤ p.high
    · rw [step_within hrange]
      split
      · rename_i howed
        intro c hc
        rw [List.mem_singleton.mp hc]
        exact (hs p rfl).completed hrange.1 hrange.2 howed
      · simp
    · rw [step_outside hrange]
      intro c hc
      rcases List.mem_cons.mp hc with rfl | hc
      · decide
      · exact start_beyond hb c hc

theorem step_sound {s : Option Begun} (hs : SoundState s) (b : UInt8) : SoundState (step s b).2 := by
  cases s with
  | none => exact start_sound b
  | some p =>
    by_cases hrange : p.low ≤ b ∧ b ≤ p.high
    · rw [step_within hrange]
      split
      · exact soundState_none
      · rename_i howed
        exact soundState_some ((hs p rfl).continued hrange.1 hrange.2 howed)
    · rw [step_outside hrange]
      exact start_sound b

/-! ## Whole byte strings -/

theorem pending_beyond (s : Option Begun) : ∀ c ∈ pending s, 0x80 ≤ c.toNat := by
  cases s <;> simp [pending, replacement]

theorem decodeFrom_nil (s : Option Begun) : decodeFrom s [] = pending s := by
  cases s <;> rfl

theorem decodeFrom_cons (s : Option Begun) (b : UInt8) (rest : Bytes) :
    decodeFrom s (b :: rest) = (step s b).1 ++ decodeFrom (step s b).2 rest := by
  cases s <;> rfl

theorem decodeFrom_ascii {s : Option Begun} (hs : SoundState s) {b : UInt8} (hb : b < 0x80)
    (rest : Bytes) : decodeFrom s (b :: rest) = pending s ++ asciiChar b :: decodeFrom none rest := by
  rw [decodeFrom_cons, step_ascii hs hb, List.append_assoc]
  rfl

/-- A byte below 0x80 parts what is decoded before it from what is decoded after it. -/
theorem decodeFrom_append_ascii {s : Option Begun} (hs : SoundState s) (bytes : Bytes) {b : UInt8}
    (hb : b < 0x80) (rest : Bytes) : decodeFrom s (bytes ++ b :: rest) =
      decodeFrom s bytes ++ asciiChar b :: decodeFrom none rest := by
  induction bytes generalizing s with
  | nil => rw [List.nil_append, decodeFrom_ascii hs hb, decodeFrom_nil]
  | cons a bytes ih =>
    rw [List.cons_append, decodeFrom_cons, ih (step_sound hs a), decodeFrom_cons, List.append_assoc]

/-- What a begun character becomes starts beyond ASCII, whatever follows. -/
theorem head_decodeFrom_some {p : Begun} (hp : p.Sound) (bytes : Bytes) :
    ∀ c ∈ (decodeFrom (some p) bytes).head?, 0x80 ≤ c.toNat := by
  induction bytes generalizing p with
  | nil =>
    intro c hc
    obtain rfl : replacement = c := Option.some.inj hc
    decide
  | cons b rest ih =>
    rw [decodeFrom_cons]
    by_cases hrange : p.low ≤ b ∧ b ≤ p.high
    · rw [step_within hrange]
      split
      · rename_i howed
        intro c hc
        obtain rfl : Char.ofNat (p.more b) = c := Option.some.inj hc
        exact hp.completed hrange.1 hrange.2 howed
      · rename_i howed
        exact ih (hp.continued hrange.1 hrange.2 howed)
    · rw [step_outside hrange]
      intro c hc
      obtain rfl : replacement = c := Option.some.inj hc
      decide

theorem start_silent (b : UInt8) : (start b).1 = [] → ∃ p, (start b).2 = some p := by
  unfold start
  repeat' split
  all_goals simp

theorem head_decode_beyond {b : UInt8} (hb : ¬ b < 0x80) (rest : Bytes) :
    ∀ c ∈ (decodeFrom none (b :: rest)).head?, 0x80 ≤ c.toNat := by
  rw [decodeFrom_cons, step]
  cases hout : (start b).1 with
  | nil =>
    obtain ⟨p, hp⟩ := start_silent b hout
    rw [hp]
    exact head_decodeFrom_some (start_sound b p hp) rest
  | cons d out =>
    intro c hc
    obtain rfl : d = c := Option.some.inj hc
    exact start_beyond hb d (by rw [hout]; exact List.mem_cons_self)

/-! ## Words of bytes below 0x80 -/

theorem toNat_asciiChar {b : UInt8} (hb : b < 0x80) : (asciiChar b).toNat = b.toNat := by
  have hlt : b.toNat < 0x80 := hb
  exact toNat_ofNat_of_valid (by omega)

theorem asciiChar_inj {a b : UInt8} (ha : a < 0x80) (hb : b < 0x80) :
    asciiChar a = asciiChar b ↔ a = b := by
  constructor
  · intro heq
    have hnat := congrArg Char.toNat heq
    rw [toNat_asciiChar ha, toNat_asciiChar hb] at hnat
    exact UInt8.toNat_inj.mp hnat
  · rintro rfl
    rfl

theorem asciiChar_ne {b : UInt8} (hb : b < 0x80) {c : Char} (hc : 0x80 ≤ c.toNat) :
    asciiChar b ≠ c := by
  rintro rfl
  have hlt : b.toNat < 0x80 := hb
  rw [toNat_asciiChar hb] at hc
  omega

section
variable {word : Bytes} (hword : ∀ b ∈ word, b < 0x80)
include hword

theorem prefix_decode_iff (bytes : Bytes) :
    word.map asciiChar <+: decodeFrom none bytes ↔ word <+: bytes := by
  induction word generalizing bytes with
  | nil => simp
  | cons a word ih =>
    have ha := hword a List.mem_cons_self
    have ih := ih fun b hb => hword b (List.mem_cons_of_mem a hb)
    cases bytes with
    | nil => simp [decodeFrom_nil, pending]
    | cons b rest =>
      rw [List.map_cons, List.cons_prefix_cons]
      by_cases hb : b < 0x80
      · rw [decodeFrom_ascii soundState_none hb, pending, List.nil_append, List.cons_prefix_cons,
          asciiChar_inj ha hb, ih]
      · constructor
        · intro hpre
          obtain ⟨u, hu⟩ := hpre
          have hhead : (decodeFrom none (b :: rest)).head? = some (asciiChar a) := by
            rw [← hu]
            rfl
          exact absurd rfl (asciiChar_ne ha (head_decode_beyond hb rest _ hhead))
        · rintro ⟨rfl, -⟩
          exact absurd ha hb

variable (hne : word ≠ [])
include hne

theorem not_prefix_beyond {c : Char} (hc : 0x80 ≤ c.toNat) (t : Text) :
    ¬ word.map asciiChar <+: c :: t := by
  cases word with
  | nil => exact absurd rfl hne
  | cons a word =>
    rw [List.map_cons, List.cons_prefix_cons]
    rintro ⟨heq, -⟩
    exact asciiChar_ne (hword a List.mem_cons_self) hc heq

/-- A word of ASCII does not reach into characters beyond it. -/
theorem infix_append_beyond {t : Text} (ht : ∀ c ∈ t, 0x80 ≤ c.toNat) (u : Text) :
    word.map asciiChar <:+: t ++ u ↔ word.map asciiChar <:+: u := by
  induction t with
  | nil => rfl
  | cons c t ih =>
    rw [List.cons_append, List.infix_cons_iff, ih fun d hd => ht d (List.mem_cons_of_mem c hd)]
    exact or_iff_right (not_prefix_beyond hword hne (ht c List.mem_cons_self) _)

theorem not_prefix_cons {b : UInt8} (hb : ¬ b < 0x80) (rest : Bytes) : ¬ word <+: b :: rest := by
  intro hpre
  cases word with
  | nil => exact hne rfl
  | cons a word =>
    obtain ⟨rfl, -⟩ := List.cons_prefix_cons.mp hpre
    exact hb (hword a List.mem_cons_self)

/-- Decoding neither swallows a byte below 0x80 nor makes one up, whatever is begun. The induction
is on the bytes; what is begun in front of them is sound throughout. -/
theorem infix_decodeFrom_iff {s : Option Begun} (hs : SoundState s) (bytes : Bytes) :
    word.map asciiChar <:+: decodeFrom s bytes ↔ word <:+: bytes := by
  induction bytes generalizing s with
  | nil =>
    rw [decodeFrom_nil, ← List.append_nil (pending s),
      infix_append_beyond hword hne (pending_beyond s)]
    simp
  | cons b rest ih =>
    rw [List.infix_cons_iff]
    by_cases hb : b < 0x80
    · have hnone := decodeFrom_ascii soundState_none hb rest
      rw [decodeFrom_ascii hs hb, infix_append_beyond hword hne (pending_beyond s),
        List.infix_cons_iff, ih soundState_none, ← prefix_decode_iff hword (b :: rest), hnone]
      rfl
    · rw [decodeFrom_cons, infix_append_beyond hword hne (step_beyond hs hb), ih (step_sound hs b)]
      exact (or_iff_right (not_prefix_cons hword hne hb rest)).symm

theorem infix_decode_iff (bytes : Bytes) :
    word.map asciiChar <:+: decode bytes ↔ word <:+: bytes :=
  infix_decodeFrom_iff hword hne soundState_none bytes

end

end MismatchLog.Utf8
