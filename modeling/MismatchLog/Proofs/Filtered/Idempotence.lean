import MismatchLog.Proofs.Filtered.Partition
import MismatchLog.Proofs.Line.Cut

/-!
# A filtered copy has nothing left to filter

* `split_copy`: the lines of a copy are the lines that were kept, so none of them is glued to
  another where a line between them is gone;
* `stats_copy`, `copy_copy`: filtering the copy keeps all of it;
* `scan_copy`: scanning it finds no mismatch.
-/

namespace MismatchLog.Filtered

/-- The copy is cut into the lines that were kept. -/
theorem split_copy (log : Bytes) : Line.split (copy log) = lines log :=
  Line.split_flatten ((Line.split_cut log).sublist List.filter_sublist)

theorem length_lines (log : Bytes) : (lines log).length = (stats log).kept :=
  List.countP_eq_length_filter.symm

/-- A line that was kept is kept again. -/
theorem lines_copy (log : Bytes) : lines (copy log) = lines log := by
  rw [lines, split_copy, lines, List.filter_filter]
  simp only [Bool.and_self]

theorem copy_copy (log : Bytes) : copy (copy log) = copy log :=
  congrArg List.flatten (lines_copy log)

theorem stats_copy (log : Bytes) : stats (copy log) = ⟨(stats log).kept, 0⟩ := by
  have hkept : (stats (copy log)).kept = (stats log).kept := by
    rw [← length_lines, lines_copy, length_lines]
  have htotal := kept_add_removed (copy log)
  rw [split_copy, length_lines, hkept] at htotal
  have hremoved : (stats (copy log)).removed = 0 := by omega
  rw [← hkept, ← hremoved]

/-- A scan of the copy counts its lines and finds nothing. -/
theorem scan_copy (log : Bytes) :
    (Scan.ofLog (copy log)).linesScanned = (stats log).kept ∧
      (Scan.ofLog (copy log)).markerLines = 0 ∧ (Scan.ofLog (copy log)).entries = #[] := by
  have hmarked : (Scan.ofLog (copy log)).markerLines = 0 := by rw [← removed_eq, stats_copy]
  refine ⟨?_, hmarked, Scan.entries_eq_empty hmarked⟩
  rw [Scan.ofLog, Scan.linesScanned_ofTexts, Line.texts, List.length_map, split_copy, length_lines]

/-- **Filtering twice is filtering once.** What a sink takes of a log's copy is cut into the lines
that were kept, as many as the numbers say and in their order. A copy of it is the same bytes with
nothing removed, and a scan of it has no entries. -/
theorem copy_has_nothing_to_remove (log : Bytes) :
    (delivery log).sendTo .unbounded = ⟨copy log, none⟩ ∧
    result log ((delivery log).sendTo .unbounded) = .ok (stats log) ∧
    Line.split (copy log) = (Line.split log).filter (fun raw => !isRemoved raw) ∧
    (Line.split (copy log)).length = (stats log).kept ∧
    (delivery (copy log)).sendTo .unbounded = ⟨copy log, none⟩ ∧
    result (copy log) ((delivery (copy log)).sendTo .unbounded) = .ok ⟨(stats log).kept, 0⟩ ∧
    (Scan.ofLog (copy log)).isEmpty = true ∧
    (Scan.ofLog (copy log)).entries = #[] ∧
    (Scan.ofLog (copy log)).linesScanned = (stats log).kept ∧
    (Scan.ofLog (copy log)).markerLines = 0 := by
  obtain ⟨hscanned, hmarked, hentries⟩ := scan_copy log
  refine ⟨sendTo_delivery log, result_unbounded log, split_copy log, ?_, ?_, ?_, ?_, hentries,
    hscanned, hmarked⟩
  · rw [split_copy, length_lines]
  · rw [sendTo_delivery, copy_copy]
  · rw [result_unbounded, stats_copy]
  · rw [Tally.isEmpty, hentries]
    rfl

/-- The last line has no line feed, and the one before it is gone: what is left still ends where it
did, and broken characters at the joint stay apart. -/
example :
    let log := [0xE2, 0x82, 0x0A] ++ Line.markerBytes ++ [0x0A, 0xAC]
    copy log = [0xE2, 0x82, 0x0A, 0xAC] ∧ Line.split (copy log) = [[0xE2, 0x82, 0x0A], [0xAC]] := by
  decide

end MismatchLog.Filtered
