import MismatchLog.Proofs.Line.Cut
import MismatchLog.Proofs.Line.Marker
import MismatchLog.Proofs.Utf8.RoundTrip

/-!
# Lines as texts

* `lf_not_mem_chomp`: the text of a log's line, without its terminator, holds no line feed;
* `split_encode`, `texts_encode`: texts without line feeds, each ended by one, are the lines of the
  log that they make up;
* `chomp_concat`, `chomp_crlf`: what is dropped where a line feed ends a text.
-/

namespace MismatchLog.Line

theorem lf_ascii : lf < 0x80 := by decide

theorem lf_mem_encode_iff {t : Text} : lf ∈ Utf8.encode t ↔ '\n' ∈ t :=
  Utf8.mem_encode_iff lf_ascii t

/-! ## Terminators -/

theorem prefix_chomp (t : Text) : chomp t <+: t := by
  obtain ⟨e, -, ht⟩ := exists_terminator t
  exact ⟨e, ht.symm⟩

theorem chomp_crlf (t : Text) : chomp (t ++ ['\r', '\n']) = t := by
  induction t with
  | nil => rfl
  | cons c t ih =>
    rw [List.cons_append, chomp, ih]
    · simp
    · intro _ heq
      simpa using congrArg List.length heq

/-- A line feed takes a carriage return along only if it stands right before it. -/
theorem chomp_concat {t : Text} (h : t.getLast? ≠ some '\r') : chomp (t ++ ['\n']) = t := by
  induction t with
  | nil => rfl
  | cons c t ih =>
    cases t with
    | nil =>
      have hc : c ≠ '\r' := by simpa using h
      rw [List.singleton_append, chomp]
      · rfl
      · simp
      · simpa using hc
    | cons d t =>
      rw [List.getLast?_cons_cons] at h
      rw [List.cons_append, chomp, ih h]
      · simp
      · simp

/-- Whatever a text ends with, little is lost of it. -/
theorem chomp_concat_cases (t : Text) :
    chomp (t ++ ['\n']) = t ∨ t = chomp (t ++ ['\n']) ++ ['\r'] := by
  by_cases hcr : t.getLast? = some '\r'
  · obtain ⟨u, rfl⟩ := List.getLast?_eq_some_iff.mp hcr
    right
    rw [List.append_assoc, List.singleton_append, chomp_crlf]
  · exact .inl (chomp_concat hcr)

/-! ## The lines of a log -/

theorem text_concat_lf (body : Bytes) : text (body ++ [lf]) = text body ++ ['\n'] :=
  Utf8.decodeFrom_append_ascii Utf8.soundState_none body lf_ascii []

theorem lf_mem_text_iff {raw : Bytes} : '\n' ∈ text raw ↔ lf ∈ raw :=
  Utf8.mem_decode_iff lf_ascii raw

theorem lf_not_mem_chomp {log raw : Bytes} (h : raw ∈ split log) : '\n' ∉ chomp (text raw) := by
  have hcut := split_cut log
  have hne : raw ≠ [] := hcut.nonempty raw h
  have hinner : lf ∉ raw.dropLast := hcut.inner raw h
  have hraw : raw.dropLast ++ [raw.getLast hne] = raw := List.dropLast_concat_getLast hne
  by_cases hlast : raw.getLast hne = lf
  · have htext : text raw = text raw.dropLast ++ ['\n'] := by
      rw [← text_concat_lf, ← hlast, hraw]
    have hbody : '\n' ∉ text raw.dropLast := mt lf_mem_text_iff.mp hinner
    rw [htext]
    rcases chomp_concat_cases (text raw.dropLast) with hall | hcr
    · rwa [hall]
    · intro hmem
      rw [hcr] at hbody
      exact hbody (List.mem_append_left _ hmem)
  · have hno : lf ∉ raw := by
      rw [← hraw, List.mem_append, List.mem_singleton, not_or]
      exact ⟨hinner, Ne.symm hlast⟩
    exact fun hmem => hno (lf_mem_text_iff.mp ((prefix_chomp _).subset hmem))

/-! ## Texts as lines of a log -/

/-- The bytes of texts, each ended by a line feed. -/
def ended (bodies : List Text) : List Bytes := bodies.map fun t => Utf8.encode (t ++ ['\n'])

theorem encode_concat_lf (t : Text) : Utf8.encode (t ++ ['\n']) = Utf8.encode t ++ [lf] :=
  List.flatMap_append

theorem cut_ended {bodies : List Text} (h : ∀ t ∈ bodies, '\n' ∉ t) : Cut (ended bodies) := by
  have hline : ∀ line ∈ ended bodies, ∃ t ∈ bodies, line = Utf8.encode t ++ [lf] := by
    intro line hline
    obtain ⟨t, ht, rfl⟩ := List.mem_map.mp hline
    exact ⟨t, ht, encode_concat_lf t⟩
  refine ⟨?_, ?_, ?_⟩
  · intro line hmem
    obtain ⟨t, -, rfl⟩ := hline line hmem
    exact List.concat_ne_nil _ _
  · intro line hmem
    obtain ⟨t, ht, rfl⟩ := hline line hmem
    rw [List.dropLast_concat, lf_mem_encode_iff]
    exact h t ht
  · intro line hmem
    obtain ⟨t, -, rfl⟩ := hline line (List.mem_of_mem_dropLast hmem)
    exact List.getLast?_concat

theorem split_encode {bodies : List Text} (h : ∀ t ∈ bodies, '\n' ∉ t) :
    split (Utf8.encode (bodies.flatMap (· ++ ['\n']))) = ended bodies := by
  have hflat : Utf8.encode (bodies.flatMap (· ++ ['\n'])) = (ended bodies).flatten := by
    rw [Utf8.encode, List.flatMap_assoc]
    rfl
  rw [hflat, split_flatten (cut_ended h)]

theorem texts_encode {bodies : List Text} (h : ∀ t ∈ bodies, '\n' ∉ t) :
    texts (Utf8.encode (bodies.flatMap (· ++ ['\n']))) = bodies.map (· ++ ['\n']) := by
  rw [texts, split_encode h, ended, List.map_map]
  apply List.map_congr_left
  intro t _
  exact Utf8.decode_encode _

end MismatchLog.Line
