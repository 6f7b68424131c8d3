import MismatchLog.Proofs.Filtered.Partition
import MismatchLog.Proofs.Line.Cut
import MismatchLog.Proofs.Tally.Merge

/-!
# Two logs, one after the other

A log that is empty or ends with a line feed is read line by line as if nothing followed it
(`Line.split_append`). So the copy of both logs is the copy of each (`Filtered.stats_append`,
`logs_one_after_the_other`), and the tally of both is the merge of their tallies.
-/

namespace MismatchLog

open Line (IsEnded)

namespace Filtered

theorem lines_append {first : Bytes} (h : IsEnded first) (second : Bytes) :
    lines (first ++ second) = lines first ++ lines second := by
  rw [lines, Line.split_append h, List.filter_append]
  rfl

theorem copy_append {first : Bytes} (h : IsEnded first) (second : Bytes) :
    copy (first ++ second) = copy first ++ copy second := by
  rw [copy, lines_append h, List.flatten_append]
  rfl

theorem stats_append {first : Bytes} (h : IsEnded first) (second : Bytes) :
    stats (first ++ second) = ⟨(stats first).kept + (stats second).kept,
      (stats first).removed + (stats second).removed⟩ := by
  rw [stats, Line.split_append h, List.countP_append, List.countP_append]
  rfl

end Filtered

namespace Scan

open Tally

theorem texts_append {first : Bytes} (h : IsEnded first) (second : Bytes) :
    Line.texts (first ++ second) = Line.texts first ++ Line.texts second := by
  rw [Line.texts, Line.split_append h, List.map_append]
  rfl

theorem entries_ofTexts_append (first second : List Text) :
    (ofTexts (first ++ second)).entries.toList =
      merge (ofTexts first).entries.toList (ofTexts second).entries.toList := by
  rw [(ofTexts_holds _).entries, (ofTexts_holds _).entries, (ofTexts_holds _).entries,
    historyOf_append, entriesOf_append]

theorem markerLines_ofTexts_append (first second : List Text) :
    (ofTexts (first ++ second)).markerLines =
      (ofTexts first).markerLines + (ofTexts second).markerLines := by
  rw [(ofTexts_holds _).markerLines, (ofTexts_holds _).markerLines, (ofTexts_holds _).markerLines,
    historyOf_append, List.length_append]

theorem linesScanned_ofTexts_append (first second : List Text) :
    (ofTexts (first ++ second)).linesScanned =
      (ofTexts first).linesScanned + (ofTexts second).linesScanned := by
  rw [linesScanned_ofTexts, linesScanned_ofTexts, linesScanned_ofTexts, List.length_append]

/-- **Logs can be read one after the other.** The first is empty or ends with a line feed. Then a
sink gets from both what it gets from the first and then from the second, and the numbers of lines
kept and removed add up. So do the numbers of the scan, and its entries are those of the first log,
with the counts of the second added, and behind them those of the second under new keys. -/
theorem logs_one_after_the_other {first : Bytes}
    (hfirst : first = [] ∨ first.getLast? = some Line.lf) (second : Bytes) :
    ((Filtered.delivery (first ++ second)).sendTo .unbounded).taken =
      ((Filtered.delivery first).sendTo .unbounded).taken ++
        ((Filtered.delivery second).sendTo .unbounded).taken ∧
    Filtered.result (first ++ second) ((Filtered.delivery (first ++ second)).sendTo .unbounded) =
      .ok ⟨(Filtered.stats first).kept + (Filtered.stats second).kept,
        (Filtered.stats first).removed + (Filtered.stats second).removed⟩ ∧
    (ofLog (first ++ second)).linesScanned =
      (ofLog first).linesScanned + (ofLog second).linesScanned ∧
    (ofLog (first ++ second)).markerLines =
      (ofLog first).markerLines + (ofLog second).markerLines ∧
    (ofLog (first ++ second)).entries.toList =
      merge (ofLog first).entries.toList (ofLog second).entries.toList := by
  have htexts := texts_append hfirst second
  refine ⟨?_, ?_, ?_, ?_, ?_⟩
  · rw [Filtered.sendTo_delivery, Filtered.sendTo_delivery, Filtered.sendTo_delivery,
      Filtered.copy_append hfirst]
  · rw [Filtered.result_unbounded, Filtered.stats_append hfirst]
  · rw [ofLog, htexts, linesScanned_ofTexts_append]
    rfl
  · rw [ofLog, htexts, markerLines_ofTexts_append]
    rfl
  · rw [ofLog, htexts, entries_ofTexts_append]
    rfl

/-- A marked line without a pair of values, ended by a line feed. -/
def unpairedLine : Bytes := Line.markerBytes ++ [Line.lf]

/-- The key of the first log occurs again in the second, in a line without a line feed. -/
theorem logs_one_after_the_other_unpaired :
    unpairedLine.getLast? = some Line.lf ∧
    ((Filtered.delivery (unpairedLine ++ [0x6B, Line.lf] ++ Line.markerBytes)).sendTo
      .unbounded).taken = [0x6B, Line.lf] ∧
    (ofLog (unpairedLine ++ ([0x6B, Line.lf] ++ Line.markerBytes))).entries.toList =
      merge (ofLog unpairedLine).entries.toList
        (ofLog ([0x6B, Line.lf] ++ Line.markerBytes)).entries.toList := by
  have hended : unpairedLine.getLast? = some Line.lf := by decide
  have hcopy : Filtered.copy unpairedLine ++ Filtered.copy ([0x6B, Line.lf] ++ Line.markerBytes) =
      [0x6B, Line.lf] := by decide
  obtain ⟨htaken, -, -, -, hentries⟩ :=
    logs_one_after_the_other (.inr hended) ([0x6B, Line.lf] ++ Line.markerBytes)
  refine ⟨hended, ?_, hentries⟩
  rw [List.append_assoc, htaken, Filtered.sendTo_delivery, Filtered.sendTo_delivery, hcopy]

end Scan
end MismatchLog
