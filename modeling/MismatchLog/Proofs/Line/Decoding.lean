import MismatchLog.Proofs.Line.Text
import Mathlib.Data.List.SplitBy

/-!
# Decoding line by line

A line feed parts what is decoded before it from what is decoded after it, so a log may be cut into
lines first or decoded first:

* `decode_flatten`: lines decode to their texts, one after the other;
* `splitBy_flatten_texts`: the texts are what their concatenation is cut into after every line feed;
* `lines_decode_alone`: both together, with where line feeds stand in a text.
-/

namespace MismatchLog

/-- A begun character becomes one or is replaced. -/
theorem Utf8.decodeFrom_begun_ne_nil (p : Begun) (bytes : Bytes) :
    decodeFrom (some p) bytes ≠ [] := by
  induction bytes generalizing p with
  | nil => exact List.cons_ne_nil _ _
  | cons b rest ih =>
    rw [decodeFrom_cons, step]
    split
    · split
      · exact List.cons_ne_nil _ _
      · exact ih _
    · exact List.cons_ne_nil _ _

namespace Line

open Utf8 (decode)

/-! ## One line -/

/-- A line is a body without a line feed, which may be followed by one. -/
theorem Cut.exists_body {lines : List Bytes} (h : Cut lines) {raw : Bytes} (hraw : raw ∈ lines) :
    (raw ≠ [] ∧ lf ∉ raw) ∨ ∃ body, lf ∉ body ∧ raw = body ++ [lf] := by
  have hne : raw ≠ [] := h.nonempty raw hraw
  have hinner : lf ∉ raw.dropLast := h.inner raw hraw
  have hwhole : raw.dropLast ++ [raw.getLast hne] = raw := List.dropLast_concat_getLast hne
  by_cases hlast : raw.getLast hne = lf
  · exact .inr ⟨raw.dropLast, hinner, by rw [← hlast, hwhole]⟩
  · refine .inl ⟨hne, ?_⟩
    rw [← hwhole, List.mem_append, List.mem_singleton, not_or]
    exact ⟨hinner, Ne.symm hlast⟩

theorem text_ne_nil {raw : Bytes} (h : raw ≠ []) : text raw ≠ [] := by
  cases raw with
  | nil => exact absurd rfl h
  | cons b rest =>
    intro hnil
    rw [text, decode, Utf8.decodeFrom_cons, List.append_eq_nil_iff] at hnil
    obtain ⟨p, hp⟩ := Utf8.start_silent b hnil.1
    have hrest := hnil.2
    rw [Utf8.step, hp] at hrest
    exact Utf8.decodeFrom_begun_ne_nil p rest hrest

/-- The text of a line holds a line feed exactly where the line does: at its end or not at all. -/
theorem Cut.lf_text {lines : List Bytes} (h : Cut lines) {raw : Bytes} (hraw : raw ∈ lines) :
    '\n' ∉ (text raw).dropLast ∧ ((text raw).getLast? = some '\n' ↔ raw.getLast? = some lf) := by
  rcases h.exists_body hraw with ⟨-, hno⟩ | ⟨body, hno, rfl⟩
  · have htext : '\n' ∉ text raw := mt lf_mem_text_iff.mp hno
    refine ⟨mt List.mem_of_mem_dropLast htext, ?_, ?_⟩
    · intro hlast
      exact absurd (List.mem_of_getLast? hlast) htext
    · intro hlast
      exact absurd (List.mem_of_getLast? hlast) hno
  · have hbody : '\n' ∉ text body := mt lf_mem_text_iff.mp hno
    rw [text_concat_lf, List.dropLast_concat, List.getLast?_concat, List.getLast?_concat]
    exact ⟨hbody, iff_of_true rfl rfl⟩

/-! ## All lines -/

/-- Each line but the last ends with a line feed, and nothing is begun behind it. -/
theorem decode_flatten {lines : List Bytes} (h : Cut lines) :
    decode lines.flatten = (lines.map text).flatten := by
  induction lines with
  | nil => rfl
  | cons line rest ih =>
    cases rest with
    | nil => simp [text]
    | cons next rest =>
      obtain ⟨body, rfl⟩ := List.getLast?_eq_some_iff.mp (h.ended line List.mem_cons_self)
      calc decode (((body ++ [lf]) :: next :: rest).flatten)
          = decode (body ++ lf :: (next :: rest).flatten) := by
            rw [List.flatten_cons, List.append_assoc, List.singleton_append]
        _ = text body ++ '\n' :: decode (next :: rest).flatten :=
            Utf8.decodeFrom_append_ascii Utf8.soundState_none body lf_ascii _
        _ = (text body ++ ['\n']) ++ ((next :: rest).map text).flatten := by
            rw [ih h.tail, List.append_assoc, List.singleton_append]
        _ = (((body ++ [lf]) :: next :: rest).map text).flatten := by
            rw [← text_concat_lf]
            rfl

/-- Neighbours stay together unless the first of them is a line feed. -/
def together (c _ : Char) : Bool := c ≠ '\n'

theorem isChain_together {t : Text} (h : '\n' ∉ t.dropLast) :
    t.IsChain fun c d => together c d = true := by
  induction t with
  | nil => exact List.isChain_nil
  | cons c t ih =>
    cases t with
    | nil => exact List.isChain_singleton c
    | cons d t =>
      rw [List.dropLast_cons_cons, List.mem_cons, not_or] at h
      exact List.isChain_cons_cons.mpr ⟨decide_eq_true (Ne.symm h.1), ih h.2⟩

theorem isChain_ended {lines : List Bytes} (h : Cut lines) :
    (lines.map text).IsChain fun t u => ∃ ht hu, together (t.getLast ht) (u.head hu) = false := by
  induction lines with
  | nil => exact List.isChain_nil
  | cons line rest ih =>
    cases rest with
    | nil => exact List.isChain_singleton _
    | cons next rest =>
      refine List.isChain_cons_cons.mpr ⟨?_, ih h.tail⟩
      have hline : line ≠ [] := h.nonempty line List.mem_cons_self
      have hnext : next ≠ [] := h.tail.nonempty next List.mem_cons_self
      have hlast : (text line).getLast? = some '\n' :=
        (h.lf_text List.mem_cons_self).2.mpr (h.ended line List.mem_cons_self)
      rw [List.getLast?_eq_some_getLast (text_ne_nil hline)] at hlast
      refine ⟨text_ne_nil hline, text_ne_nil hnext, ?_⟩
      rw [Option.some.inj hlast]
      rfl

theorem splitBy_flatten_texts {lines : List Bytes} (h : Cut lines) :
    (lines.map text).flatten.splitBy together = lines.map text := by
  refine List.splitBy_flatten ?_ ?_ (isChain_ended h)
  · intro hnil
    obtain ⟨raw, hraw, htext⟩ := List.mem_map.mp hnil
    exact text_ne_nil (h.nonempty raw hraw) htext
  · intro t ht
    obtain ⟨raw, hraw, rfl⟩ := List.mem_map.mp ht
    exact isChain_together (h.lf_text hraw).1

/-- **A log decoded line by line is the log decoded as a whole.** The texts of its lines are, one
after the other, the text of the log; they are what that text is cut into after every line feed; and
a line feed stands in a text only at its end, where it stands exactly if the line ends with one. -/
theorem lines_decode_alone (log : Bytes) :
    (texts log).flatten = decode log ∧
    (decode log).splitBy (fun c _ => c ≠ '\n') = texts log ∧
    ∀ raw ∈ split log, '\n' ∉ (text raw).dropLast ∧
      ((text raw).getLast? = some '\n' ↔ raw.getLast? = some lf) ∧
      ('\n' ∈ text raw ↔ raw.getLast? = some lf) := by
  have hcut : Cut (split log) := split_cut log
  have hwhole : decode log = (texts log).flatten := by
    rw [texts, ← decode_flatten hcut, flatten_split]
  refine ⟨hwhole.symm, ?_, ?_⟩
  · rw [hwhole]
    exact splitBy_flatten_texts hcut
  · intro raw hraw
    obtain ⟨hinner, hlast⟩ := hcut.lf_text hraw
    refine ⟨hinner, hlast, ?_, ?_⟩
    · intro hmem
      have hne : text raw ≠ [] := List.ne_nil_of_mem hmem
      rw [← List.dropLast_concat_getLast hne, List.mem_append, List.mem_singleton] at hmem
      rw [← hlast, List.getLast?_eq_some_getLast hne]
      exact congrArg some (hmem.resolve_left hinner).symm
    · intro hended
      exact List.mem_of_getLast? (hlast.mpr hended)

/-- A character that a line feed breaks is replaced on both sides of it. -/
example : texts [0xE2, 0x82, lf, 0xAC] = [['\uFFFD', '\n'], ['\uFFFD']] := by decide

end Line
end MismatchLog
