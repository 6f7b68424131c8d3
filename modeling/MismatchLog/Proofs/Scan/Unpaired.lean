import MismatchLog.Proofs.Key.Surroundings
import MismatchLog.Proofs.Scan.Grouping
import MismatchLog.Proofs.Tally.Selection

/-!
# Marked lines without a pair

A marked line in which no pair of literals stands is keyed by its text, and told about when it is
scanned. Lines with the same text share an entry but not what is told:

* `IsUnpaired`: the lines that are told about (`unpaired_eq`), said by the marker and the grammar;
* `rawCount`: the number of lines that the raw-line entries stand for. Recording one line raises it
  by one or not at all (`rawCount_scanLine`), so at the end of a scan it is the number of the
  unpaired lines (`rawCount_ofTexts`), however few entries these have.
-/

namespace MismatchLog

namespace Tally

/-- The number of lines that the entries without a pair of literals stand for. -/
def rawCount (t : Tally) : Nat :=
  ((t.entries.toList.filter fun e => !e.key.isHexPair).map Entry.count).sum

theorem Holds.rawCount {t : Tally} {h : History} (ht : Holds t h) :
    t.rawCount = (select (fun k => !k.isHexPair) h).length := by
  rw [Tally.rawCount, ht.entries, ← entriesOf_select fun k => !k.isHexPair, sum_counts_entriesOf]

theorem rawCount_record {t : Tally} {h : History} (ht : Holds t h) (k : Key) (line : Text) :
    (t.record k line).rawCount = t.rawCount + if k.isHexPair then 0 else 1 := by
  rw [(record_holds ht k line).rawCount, ht.rawCount, select_concat]
  cases hk : k.isHexPair <;> simp

end Tally

namespace Scan

open Tally

/-- A line that is marked, and in which no pair of literals stands anywhere. -/
structure IsUnpaired (line : Text) : Prop where
  marked : Line.marker <:+: line
  unpaired : ∀ i s, ¬ Key.MatchAt line i s

theorem isUnpaired_iff {line : Text} :
    IsUnpaired line ↔ Line.isMarked line = true ∧ (Key.ofLine line).isHexPair = false := by
  rw [Key.isHexPair_ofLine, Option.isSome_eq_false_iff, Option.isNone_iff_eq_none,
    Key.firstPair?_eq_none_iff, Line.isMarked_iff]
  exact ⟨fun h => ⟨h.marked, h.unpaired⟩, fun h => ⟨h.1, h.2⟩⟩

instance : DecidablePred IsUnpaired := fun _ => decidable_of_iff _ isUnpaired_iff.symm

/-- The terminator of a line takes no part in this. -/
theorem isUnpaired_chomp {raw : Text} : IsUnpaired (Line.chomp raw) ↔ IsUnpaired raw := by
  simp only [isUnpaired_iff, Line.isMarked_chomp, Key.isHexPair_ofLine, Key.firstPair?_chomp]

theorem unpaired_eq (lines : List Text) :
    unpaired lines = (lines.filter fun raw => IsUnpaired raw).map Line.chomp := by
  rw [unpaired, List.filter_map]
  congr 1
  apply List.filter_congr
  intro raw _
  rw [Bool.eq_iff_iff, decide_eq_true_iff, ← isUnpaired_chomp, isUnpaired_iff]
  simp

/-- One line changes the count by one exactly if it is unpaired. -/
theorem rawCount_scanLine {t : Tally} {h : History} (ht : Holds t h) (raw : Text) :
    (scanLine t raw).rawCount = t.rawCount + if IsUnpaired raw then 1 else 0 := by
  have counted : Holds { t with linesScanned := t.linesScanned + 1 } h :=
    ⟨ht.entries, ht.index, ht.markerLines⟩
  have hiff := isUnpaired_chomp.symm.trans (@isUnpaired_iff (Line.chomp raw))
  unfold scanLine
  dsimp only
  by_cases hmarked : Line.isMarked (Line.chomp raw) = true
  · rw [if_pos hmarked, recordLine, rawCount_record counted]
    cases hpair : (Key.ofLine (Line.chomp raw)).isHexPair
    · rw [if_pos (hiff.mpr ⟨hmarked, hpair⟩)]
      rfl
    · have hpaired : ¬ IsUnpaired raw := by
        intro hraw
        rw [(hiff.mp hraw).2] at hpair
        cases hpair
      rw [if_neg hpaired]
      rfl
  · have hunmarked : ¬ IsUnpaired raw := fun hraw => hmarked (hiff.mp hraw).1
    rw [if_neg hmarked, if_neg hunmarked]
    rfl

/-- So a whole scan counts the unpaired lines, each as often as it occurs. -/
theorem rawCount_ofTexts (lines : List Text) :
    (ofTexts lines).rawCount = lines.countP fun raw => IsUnpaired raw := by
  induction lines using List.reverseRecOn with
  | nil => rfl
  | append_singleton lines raw ih =>
    rw [ofTexts_concat, rawCount_scanLine (ofTexts_holds lines), ih, List.countP_append]
    simp [List.countP_singleton]

theorem length_unpaired (lines : List Text) :
    (unpaired lines).length = (ofTexts lines).rawCount := by
  rw [unpaired_eq, List.length_map, rawCount_ofTexts, List.countP_eq_length_filter]

end Scan
end MismatchLog
