import MismatchLog.Line
import MismatchLog.Proofs.Utf8.Ascii
import Mathlib.Data.List.Induction

/-!
# Where the marker stands

The marker is made of characters below 0x80 and holds no line end. Hence it is found in a line with
or without its terminator (`isMarked_chomp`), and in the decoded text of a line exactly where its
bytes are in the line (`isMarked_text_iff`).
-/

namespace MismatchLog.Line

/-- The marker as bytes. -/
def markerBytes : Bytes := Utf8.encode marker

theorem length_markerBytes : markerBytes.length = 36 := by decide

theorem markerBytes_ascii : ∀ b ∈ markerBytes, b < 0x80 := by
  have hall : markerBytes.all (· < 0x80) = true := by decide
  simpa using hall

theorem map_markerBytes : markerBytes.map Utf8.asciiChar = marker := by decide

theorem isMarked_iff {t : Text} : isMarked t = true ↔ marker <:+: t := Text.occursIn_iff

/-- A line is marked exactly if it holds the marker's bytes in one piece. -/
theorem isMarked_text_iff (raw : Bytes) : isMarked (text raw) = true ↔ markerBytes <:+: raw := by
  rw [isMarked_iff, ← map_markerBytes]
  exact Utf8.infix_decode_iff markerBytes_ascii (by decide) raw

/-- A terminator is all that can be missing. -/
theorem exists_terminator (t : Text) :
    ∃ e, (e = [] ∨ e = ['\n'] ∨ e = ['\r', '\n']) ∧ t = chomp t ++ e := by
  fun_induction chomp t with
  | case1 => exact ⟨[], .inl rfl, rfl⟩
  | case2 => exact ⟨['\n'], .inr (.inl rfl), rfl⟩
  | case3 => exact ⟨['\r', '\n'], .inr (.inr rfl), rfl⟩
  | case4 c rest _ _ ih =>
    obtain ⟨e, he, hrest⟩ := ih
    exact ⟨e, he, congrArg (c :: ·) hrest⟩

/-- A word does not reach into characters that it does not have. -/
theorem infix_append_foreign {w e : Text} (hw : w ≠ []) (he : ∀ c ∈ e, c ∉ w) (t : Text) :
    w <:+: t ++ e ↔ w <:+: t := by
  induction e using List.reverseRecOn with
  | nil => rw [List.append_nil]
  | append_singleton e c ih =>
    rw [← List.append_assoc, List.infix_concat_iff, ih fun d hd => he d (List.mem_append_left _ hd)]
    refine or_iff_right ?_
    rintro ⟨u, hu⟩
    have hlast : w.getLast hw = c := by
      have hmem := congrArg List.getLast? hu
      rw [List.getLast?_append, List.getLast?_concat, List.getLast?_eq_some_getLast hw] at hmem
      exact Option.some.inj hmem
    exact he c (by simp) (hlast ▸ List.getLast_mem hw)

theorem isMarked_chomp (t : Text) : isMarked (chomp t) = isMarked t := by
  obtain ⟨e, he, ht⟩ := exists_terminator t
  have hforeign : ∀ c ∈ e, c ∉ marker := by
    have hlf : '\n' ∉ marker := by decide
    have hcr : '\r' ∉ marker := by decide
    rcases he with rfl | rfl | rfl <;> simp [hlf, hcr]
  have hiff := infix_append_foreign (by decide) hforeign (chomp t)
  rw [← ht] at hiff
  rw [Bool.eq_iff_iff, isMarked_iff, isMarked_iff, hiff]

end MismatchLog.Line
