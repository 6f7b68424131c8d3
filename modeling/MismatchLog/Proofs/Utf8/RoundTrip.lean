import MismatchLog.Proofs.Utf8.Ascii
import Mathlib.Data.List.Infix

/-!
# What is encoded is decoded

* `decodeFrom_encodeChar`: the machine settles every character at the last of its bytes, with
  nothing begun before or after it;
* `decode_encode`, `decode?_encode`: so a text is what its encoding decodes to;
* `mem_encode_iff`: a byte below 0x80 stands in an encoding only where its character is in the text.
-/

namespace MismatchLog.Utf8

/-! ## First bytes -/

theorem start_two {b : UInt8} (hlow : 0xC2 ≤ b.toNat) (hhigh : b.toNat ≤ 0xDF) :
    start b = ([], some ⟨b.toNat - 0xC0, 1, 0x80, 0xBF⟩) := by
  unfold start
  simp only [UInt8.lt_iff_toNat_lt, UInt8.le_iff_toNat_le, UInt8.reduceToNat]
  rw [if_neg (by omega), if_pos ⟨hlow, hhigh⟩]

/-- After the first of three bytes the range of the second leaves out overlong forms and
surrogates. -/
theorem start_three {b : UInt8} (hlow : 0xE0 ≤ b.toNat) (hhigh : b.toNat ≤ 0xEF) :
    ∃ low high, start b = ([], some ⟨b.toNat - 0xE0, 2, low, high⟩) ∧
      low.toNat = (if b.toNat = 0xE0 then 0xA0 else 0x80) ∧
      high.toNat = (if b.toNat = 0xED then 0x9F else 0xBF) := by
  unfold start
  simp only [UInt8.lt_iff_toNat_lt, UInt8.le_iff_toNat_le, ← UInt8.toNat_inj, UInt8.reduceToNat]
  rw [if_neg (by omega), if_neg (by omega)]
  by_cases hfirst : b.toNat = 0xE0
  · exact ⟨0xA0, 0xBF, by simp [hfirst]⟩
  · by_cases hsurrogate : b.toNat = 0xED
    · exact ⟨0x80, 0x9F, by simp [hsurrogate]⟩
    · refine ⟨0x80, 0xBF, ?_, ?_, ?_⟩
      · rw [if_neg hfirst, if_neg hsurrogate, if_pos (by omega)]
      · simp [hfirst]
      · simp [hsurrogate]

/-- After the first of four bytes the range of the second leaves out overlong forms and numbers
beyond the last character. -/
theorem start_four {b : UInt8} (hlow : 0xF0 ≤ b.toNat) (hhigh : b.toNat ≤ 0xF4) :
    ∃ low high, start b = ([], some ⟨b.toNat - 0xF0, 3, low, high⟩) ∧
      low.toNat = (if b.toNat = 0xF0 then 0x90 else 0x80) ∧
      high.toNat = (if b.toNat = 0xF4 then 0x8F else 0xBF) := by
  unfold start
  simp only [UInt8.lt_iff_toNat_lt, UInt8.le_iff_toNat_le, ← UInt8.toNat_inj, UInt8.reduceToNat]
  rw [if_neg (by omega), if_neg (by omega), if_neg (by omega), if_neg (by omega), if_neg (by omega)]
  by_cases hfirst : b.toNat = 0xF0
  · exact ⟨0x90, 0xBF, by simp [hfirst]⟩
  · by_cases hlast : b.toNat = 0xF4
    · exact ⟨0x80, 0x8F, by simp [hlast]⟩
    · refine ⟨0x80, 0xBF, ?_, ?_, ?_⟩
      · rw [if_neg hfirst, if_pos (by omega)]
      · simp [hfirst]
      · simp [hlast]

/-! ## Bytes that follow -/

theorem toNat_byte {k : Nat} (hk : k < 256) : (UInt8.ofNat k).toNat = k :=
  UInt8.toNat_ofNat_of_lt' hk

theorem toNat_follower (k : Nat) : (UInt8.ofNat (k % 64 + 128)).toNat = k % 64 + 128 :=
  toNat_byte (by omega)

section
variable {low high : UInt8} {bits k : Nat} (hlow : low.toNat ≤ k % 64 + 128)
  (hhigh : k % 64 + 128 ≤ high.toNat) (rest : Bytes)
include hlow hhigh

/-- A byte with six more bits, if it lies in the range that is asked for. -/
theorem step_follower (owed : Nat) :
    step (some ⟨bits, owed, low, high⟩) (UInt8.ofNat (k % 64 + 128)) =
      if owed ≤ 1 then ([Char.ofNat (bits * 64 + k % 64)], none)
      else ([], some ⟨bits * 64 + k % 64, owed - 1, 0x80, 0xBF⟩) := by
  have hrange : low.toNat ≤ (UInt8.ofNat (k % 64 + 128)).toNat ∧
      (UInt8.ofNat (k % 64 + 128)).toNat ≤ high.toNat := by
    rw [toNat_follower]
    exact ⟨hlow, hhigh⟩
  have hmore : Begun.more ⟨bits, owed, low, high⟩ (UInt8.ofNat (k % 64 + 128)) =
      bits * 64 + k % 64 := by
    unfold Begun.more
    rw [toNat_follower, Nat.add_sub_cancel]
  rw [step_within hrange, hmore]

theorem decodeFrom_inner (owed : Nat) :
    decodeFrom (some ⟨bits, owed + 2, low, high⟩) (UInt8.ofNat (k % 64 + 128) :: rest) =
      decodeFrom (some ⟨bits * 64 + k % 64, owed + 1, 0x80, 0xBF⟩) rest := by
  rw [decodeFrom_cons, step_follower hlow hhigh, if_neg (by omega)]
  rfl

theorem decodeFrom_last :
    decodeFrom (some ⟨bits, 1, low, high⟩) (UInt8.ofNat (k % 64 + 128) :: rest) =
      Char.ofNat (bits * 64 + k % 64) :: decodeFrom none rest := by
  rw [decodeFrom_cons, step_follower hlow hhigh, if_pos (Nat.le_refl 1)]
  rfl

end

/-- The range of every byte but the first two. -/
theorem follower_range (k : Nat) :
    (0x80 : UInt8).toNat ≤ k % 64 + 128 ∧ k % 64 + 128 ≤ (0xBF : UInt8).toNat := by
  show 128 ≤ k % 64 + 128 ∧ k % 64 + 128 ≤ 191
  omega

/-! ## Whole characters -/

section
variable {n : Nat} (rest : Bytes)

theorem decodeFrom_two (hlow : 0x80 ≤ n) (hhigh : n ≤ 0x7FF) :
    decodeFrom none (UInt8.ofNat (n / 64 % 32 + 192) :: UInt8.ofNat (n % 64 + 128) :: rest) =
      Char.ofNat n :: decodeFrom none rest := by
  have hfirst : (UInt8.ofNat (n / 64 % 32 + 192)).toNat = n / 64 % 32 + 192 :=
    toNat_byte (by omega)
  have hbits : (n / 64 % 32 + 192 - 0xC0) * 64 + n % 64 = n := by omega
  rw [decodeFrom_cons, step, start_two (by omega) (by omega), List.nil_append,
    decodeFrom_last (follower_range n).1 (follower_range n).2, hfirst, hbits]

theorem decodeFrom_three (hlow : 0x800 ≤ n) (hhigh : n ≤ 0xFFFF)
    (hvalid : n < 0xD800 ∨ 0xDFFF < n) :
    decodeFrom none (UInt8.ofNat (n / 4096 % 16 + 224) :: UInt8.ofNat (n / 64 % 64 + 128) ::
      UInt8.ofNat (n % 64 + 128) :: rest) = Char.ofNat n :: decodeFrom none rest := by
  have hfirst : (UInt8.ofNat (n / 4096 % 16 + 224)).toNat = n / 4096 % 16 + 224 :=
    toNat_byte (by omega)
  obtain ⟨low, high, hstart, hmin, hmax⟩ :=
    start_three (b := UInt8.ofNat (n / 4096 % 16 + 224)) (by omega) (by omega)
  rw [hfirst] at hmin hmax
  have hsecond : low.toNat ≤ n / 64 % 64 + 128 ∧ n / 64 % 64 + 128 ≤ high.toNat := by
    rw [hmin, hmax]
    constructor <;> split <;> omega
  have hbits : ((n / 4096 % 16 + 224 - 0xE0) * 64 + n / 64 % 64) * 64 + n % 64 = n := by omega
  rw [decodeFrom_cons, step, hstart, List.nil_append, decodeFrom_inner hsecond.1 hsecond.2 _ 0,
    decodeFrom_last (follower_range n).1 (follower_range n).2, hfirst, hbits]

theorem decodeFrom_four (hlow : 0x10000 ≤ n) (hhigh : n < 0x110000) :
    decodeFrom none (UInt8.ofNat (n / 262144 % 8 + 240) :: UInt8.ofNat (n / 4096 % 64 + 128) ::
      UInt8.ofNat (n / 64 % 64 + 128) :: UInt8.ofNat (n % 64 + 128) :: rest) =
        Char.ofNat n :: decodeFrom none rest := by
  have hfirst : (UInt8.ofNat (n / 262144 % 8 + 240)).toNat = n / 262144 % 8 + 240 :=
    toNat_byte (by omega)
  obtain ⟨low, high, hstart, hmin, hmax⟩ :=
    start_four (b := UInt8.ofNat (n / 262144 % 8 + 240)) (by omega) (by omega)
  rw [hfirst] at hmin hmax
  have hsecond : low.toNat ≤ n / 4096 % 64 + 128 ∧ n / 4096 % 64 + 128 ≤ high.toNat := by
    rw [hmin, hmax]
    constructor <;> split <;> omega
  have hbits : (((n / 262144 % 8 + 240 - 0xF0) * 64 + n / 4096 % 64) * 64 + n / 64 % 64) * 64 +
      n % 64 = n := by omega
  rw [decodeFrom_cons, step, hstart, List.nil_append, decodeFrom_inner hsecond.1 hsecond.2 _ 1,
    decodeFrom_inner (follower_range _).1 (follower_range _).2 _ 0,
    decodeFrom_last (follower_range n).1 (follower_range n).2, hfirst, hbits]

end

/-- The cases are the four lengths of an encoded character. -/
theorem decodeFrom_encodeChar (c : Char) (rest : Bytes) :
    decodeFrom none (String.utf8EncodeChar c ++ rest) = c :: decodeFrom none rest := by
  have hvalid : c.toNat < 0xD800 ∨ (0xDFFF < c.toNat ∧ c.toNat < 0x110000) := c.valid
  have hval : c.val.toNat = c.toNat := rfl
  have hchar : Char.ofNat c.toNat = c := Char.ofNat_toNat c
  unfold String.utf8EncodeChar
  simp only [hval]
  split
  · have hbyte : (UInt8.ofNat c.toNat).toNat = c.toNat := toNat_byte (by omega)
    have hascii : UInt8.ofNat c.toNat < 0x80 := by
      rw [UInt8.lt_iff_toNat_lt, hbyte]
      show c.toNat < 128
      omega
    rw [List.singleton_append, decodeFrom_ascii soundState_none hascii, asciiChar, hbyte, hchar]
    rfl
  · split
    · rw [← hchar, Char.ofNat_toNat]
      exact (decodeFrom_two rest (by omega) (by omega)).trans (by rw [hchar])
    · split
      · exact (decodeFrom_three rest (by omega) (by omega) (by omega)).trans (by rw [hchar])
      · exact (decodeFrom_four rest (by omega) (by omega)).trans (by rw [hchar])

/-! ## Texts -/

/-- What follows an encoded text is decoded on its own. -/
theorem decodeFrom_encode_append (t : Text) (rest : Bytes) :
    decodeFrom none (encode t ++ rest) = t ++ decodeFrom none rest := by
  induction t with
  | nil => rfl
  | cons c t ih =>
    rw [encode, List.flatMap_cons, List.append_assoc, decodeFrom_encodeChar, List.cons_append]
    exact congrArg (c :: ·) ih

theorem decode_encode (t : Text) : decode (encode t) = t := by
  have h := decodeFrom_encode_append t []
  rwa [List.append_nil, decodeFrom_nil, pending, List.append_nil] at h

theorem decode?_encode (t : Text) : decode? (encode t) = some t := by
  rw [decode?, decode_encode, if_pos rfl]

theorem encode_injective : Function.Injective encode :=
  Function.LeftInverse.injective decode_encode

/-- A byte below 0x80 occurs in bytes exactly if its character is in what they decode to. -/
theorem mem_decode_iff {b : UInt8} (hb : b < 0x80) (bytes : Bytes) :
    asciiChar b ∈ decode bytes ↔ b ∈ bytes := by
  have h := infix_decode_iff (List.forall_mem_singleton.mpr hb) (List.cons_ne_nil b []) bytes
  rwa [List.map_singleton, List.singleton_infix_iff, List.singleton_infix_iff] at h

theorem mem_encode_iff {b : UInt8} (hb : b < 0x80) (t : Text) :
    b ∈ encode t ↔ asciiChar b ∈ t := by
  rw [← mem_decode_iff hb, decode_encode]

end MismatchLog.Utf8
