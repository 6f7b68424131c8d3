import MismatchLog.Proofs.Csv.Reading
import MismatchLog.Proofs.Key.Leftmost
import MismatchLog.Proofs.Report.Pieces
import MismatchLog.Proofs.Scan.Entries
import MismatchLog.Proofs.Text.Decimal
import MismatchLog.Proofs.Utf8.RoundTrip

/-!
# A report as records is read back

* `read?_render`: the records that are read are a header and one record for each entry;
* `ofRecord?_toRecord`: a record gives its entry back, provided that the key is what a scan makes of
  the line, for then the key is a pair exactly if the field of its first literal is not empty.
-/

namespace MismatchLog

/-- The two literals, if there are any. -/
def Key.literals : Key → Text × Text
  | .hexPair dut ref => (dut, ref)
  | .rawLine _ => ([], [])

namespace Entry

/-- The entry that a record stands for. -/
def ofRecord? : List Text → Option Entry
  | [count, dut, ref, line] =>
    (Text.ofDecimal? count).map fun n =>
      ⟨n, line, if dut = [] then .rawLine line else .hexPair dut ref⟩
  | _ => none

theorem toRecord_eq (e : Entry) :
    e.toRecord = [Text.decimal e.count, e.key.literals.1, e.key.literals.2, e.line] := by
  unfold toRecord Key.literals
  cases e.key <;> rfl

/-- Literals of a line are never empty. -/
theorem dut_ne_nil {line dut ref : Text} (h : Key.ofLine line = .hexPair dut ref) : dut ≠ [] := by
  by_cases hmatch : ∃ i s, Key.MatchAt line i s
  · obtain ⟨i, s, hfirst⟩ := Key.exists_firstMatch hmatch
    rw [Key.ofLine_of_firstMatch hfirst] at h
    obtain ⟨rfl, -⟩ := Key.hexPair.inj h
    obtain ⟨digits, hlower, -⟩ := s.dut.lower_text
    rw [hlower]
    exact List.cons_ne_nil _ _
  · rw [Key.ofLine_of_no_match (by simpa using hmatch)] at h
    cases h

theorem line_eq_of_rawLine {line text : Text} (h : Key.ofLine line = .rawLine text) :
    text = line := by
  unfold Key.ofLine at h
  split at h
  · cases h
  · exact (Key.rawLine.inj h).symm

theorem ofRecord?_toRecord {e : Entry} (h : e.key = Key.ofLine e.line) :
    ofRecord? e.toRecord = some e := by
  obtain ⟨count, line, key⟩ := e
  rw [toRecord_eq, ofRecord?, Text.ofDecimal?_decimal]
  cases key with
  | hexPair dut ref => simp [Key.literals, dut_ne_nil h.symm]
  | rawLine text => simp [Key.literals, line_eq_of_rawLine h.symm]

end Entry

namespace Report

theorem isDocument_render (counts : Bool) (t : Tally) :
    Csv.IsDocument (records t) (render .csv counts t) := by
  apply Csv.isDocument_document
  intro fields hfields
  rcases List.mem_cons.mp hfields with rfl | hmem
  · exact List.cons_ne_nil _ _
  · obtain ⟨e, -, rfl⟩ := List.mem_map.mp hmem
    rw [Entry.toRecord_eq]
    exact List.cons_ne_nil _ _

theorem read?_render (counts : Bool) (t : Tally) :
    Csv.read? (render .csv counts t) = some (records t) :=
  Csv.read?_of_isDocument (isDocument_render counts t)

/-- Every entry of a scan is read back from its record. -/
theorem map_ofRecord?_records (log : Bytes) :
    (records (Scan.ofLog log)).tail.map Entry.ofRecord? =
      (Scan.ofLog log).entries.toList.map some := by
  rw [records, List.tail_cons, List.map_map]
  apply List.map_congr_left
  intro e he
  exact Entry.ofRecord?_toRecord (Scan.key_eq_ofLine he)

/-- **Records lose nothing.** What a sink takes of a report as records is a text in UTF-8, and that
text is a written form of these records and of no others: a header, and for each entry in order its
count, its literals or nothing, and its line. A reader finds them; and if the report is that of a
log, they give back every entry, with its key. -/
theorem records_read_back :
    (∀ (counts : Bool) (t : Tally), ∃ text : Text,
      (delivery .csv counts t).sendTo .unbounded = ⟨Utf8.encode text, none⟩ ∧
      Utf8.decode? (Utf8.encode text) = some text ∧
      Csv.read? text = some (["count".toList, "dut".toList, "ref".toList, "line".toList] ::
        t.entries.toList.map fun e =>
          [Text.decimal e.count, e.key.literals.1, e.key.literals.2, e.line]) ∧
      ∀ rs, Csv.IsDocument rs text ↔ Csv.read? text = some rs) ∧
    ∀ (counts : Bool) (log : Bytes), ∃ text rs,
      (delivery .csv counts (Scan.ofLog log)).sendTo .unbounded = ⟨Utf8.encode text, none⟩ ∧
      Csv.read? text = some rs ∧
      rs.tail.map Entry.ofRecord? = (Scan.ofLog log).entries.toList.map some := by
  refine ⟨?_, ?_⟩
  · intro counts t
    refine ⟨render .csv counts t, sendTo_delivery .csv counts t, Utf8.decode?_encode _, ?_, ?_⟩
    · rw [read?_render, records, header]
      congr 2
      exact List.map_congr_left fun e _ => e.toRecord_eq
    · intro rs
      rw [read?_render]
      constructor
      · intro h
        rw [Csv.isDocument_unique h (isDocument_render counts t)]
      · intro h
        rw [← Option.some.inj h]
        exact isDocument_render counts t
  · intro counts log
    exact ⟨_, _, sendTo_delivery .csv counts _, read?_render counts _, map_ofRecord?_records log⟩

end Report
end MismatchLog
