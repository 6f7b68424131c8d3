import MismatchLog.Proofs.Line.Text
import MismatchLog.Proofs.Scan.Grouping

/-!
# The entries of a scan

Every entry stands for a line that was scanned: `exists_line` names the line, and `key_eq_ofLine`
and `isMarked_line` say what its text tells, so the key of an entry can be found from its text alone.
The line of a log's entry holds no line feed (`lf_not_mem_line`).
-/

namespace MismatchLog.Scan

open Tally

theorem mem_of_lookup {h : History} {k : Key} {line : Text} (hk : h.lookup k = some line) :
    (k, line) ∈ h := by
  obtain ⟨before, after, rfl, -⟩ := List.lookup_eq_some_iff.mp hk
  exact List.mem_append_right before List.mem_cons_self

section
variable {lines : List Text} {e : Entry} (he : e ∈ (ofTexts lines).entries.toList)
include he

theorem exists_line : ∃ raw ∈ lines, keyOf? raw = some e.key ∧ e.line = Line.chomp raw := by
  rw [(ofTexts_holds lines).entries] at he
  obtain ⟨k, hk, rfl⟩ := List.mem_map.mp he
  obtain ⟨line, hline⟩ := Option.isSome_iff_exists.mp (isSome_lookup.mpr hk)
  obtain ⟨raw, hraw, hrecord⟩ := List.mem_filterMap.mp (mem_of_lookup hline)
  refine ⟨raw, hraw, by rw [keyOf?, hrecord]; rfl, ?_⟩
  have hchomp : Line.chomp raw = line := by
    unfold recordOf? at hrecord
    split at hrecord
    · exact (Prod.mk.inj (Option.some.inj hrecord)).2
    · cases hrecord
  rw [hchomp, entryOf, hline]
  rfl

/-- The text of an entry tells its key. -/
theorem key_eq_ofLine : e.key = Key.ofLine e.line := by
  obtain ⟨raw, -, hkey, hline⟩ := exists_line he
  rw [hline]
  exact (keyOf?_eq_some_iff.mp hkey).2.symm

theorem isMarked_line : Line.isMarked e.line = true := by
  obtain ⟨raw, -, hkey, hline⟩ := exists_line he
  rw [hline]
  exact (keyOf?_eq_some_iff.mp hkey).1

end

theorem lf_not_mem_line {log : Bytes} {e : Entry} (he : e ∈ (ofLog log).entries.toList) :
    '\n' ∉ e.line := by
  obtain ⟨text, htext, -, hline⟩ := exists_line he
  obtain ⟨raw, hraw, rfl⟩ := List.mem_map.mp htext
  rw [hline]
  exact Line.lf_not_mem_chomp hraw

theorem nodup_keys (lines : List Text) : ((ofTexts lines).entries.toList.map Entry.key).Nodup :=
  (ofTexts_groups lines).distinct

/-- A scan of marked lines alone records them all. -/
theorem historyOf_of_isMarked {lines : List Text} (h : ∀ raw ∈ lines, Line.isMarked raw = true) :
    historyOf lines = lines.map fun raw => (Key.ofLine (Line.chomp raw), Line.chomp raw) := by
  rw [historyOf, ← List.filterMap_eq_map']
  apply List.filterMap_congr
  intro raw hraw
  rw [recordOf?, if_pos (by rw [Line.isMarked_chomp, h raw hraw])]

end MismatchLog.Scan
