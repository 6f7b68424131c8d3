import MismatchLog.Proofs.Line.Marker
import MismatchLog.Proofs.Scan.Grouping
import MismatchLog.Proofs.Sink.Delivery
import MismatchLog.Filtered
import Mathlib.Data.List.Infix

/-!
# Scan and filtered copy part a log alike

* `isRemoved_iff`: a line stays out of the copy if it holds the bytes of the marker, and only then;
* `isRemoved_iff_counted`, `removed_eq`, `kept_add_removed`: the lines that the copy lacks are those
  that the scan counts, so the numbers of both fit.
-/

namespace MismatchLog.Filtered

/-- What is handed over for a copy is the copy. -/
theorem bytes_delivery (log : Bytes) : (delivery log).bytes = copy log := by
  rw [Delivery.bytes, delivery, copy, List.flatten_nil, List.append_nil]

theorem sendTo_delivery (log : Bytes) :
    (delivery log).sendTo .unbounded = ⟨copy log, none⟩ := by
  rw [Delivery.sendTo_unbounded, bytes_delivery]

theorem isRemoved_iff {raw : Bytes} : isRemoved raw = true ↔ Line.markerBytes <:+: raw :=
  Line.isMarked_text_iff raw

/-- **The copy is made of bytes.** It is the lines without the 36 bytes of the marker, in order and
unchanged, although the marker is looked for in decoded text; and a line's text is marked exactly
if the line holds those bytes, whatever else it holds. -/
theorem copy_drops_marker_bytes :
    (∀ log : Bytes, (delivery log).sendTo .unbounded =
      ⟨((Line.split log).filter fun raw => ¬ Line.markerBytes <:+: raw).flatten, none⟩) ∧
    (∀ raw : Bytes, Line.isMarked (Utf8.decode raw) = true ↔ Line.markerBytes <:+: raw) ∧
    Line.markerBytes = "GVM error: DUT and REF xreg mismatch".toList.map (fun c => c.toNat.toUInt8) ∧
    Line.markerBytes.length = 36 := by
  refine ⟨?_, Line.isMarked_text_iff, by decide, Line.length_markerBytes⟩
  intro log
  rw [sendTo_delivery, copy, lines]
  congr 2
  apply List.filter_congr
  intro raw _
  rw [Bool.eq_iff_iff]
  simp [← isRemoved_iff]

/-! ## The same lines -/

theorem isRemoved_eq (raw : Bytes) :
    isRemoved raw = Line.isMarked (Line.chomp (Line.text raw)) :=
  (Line.isMarked_chomp _).symm

theorem kept_add_removed (log : Bytes) :
    (stats log).kept + (stats log).removed = (Line.split log).length := by
  rw [List.length_eq_countP_add_countP isRemoved, stats, Nat.add_comm]
  simp

theorem removed_eq (log : Bytes) : (stats log).removed = (Scan.ofLog log).markerLines := by
  rw [Scan.ofLog, (Scan.ofTexts_tallyOf _).marked, Line.texts, List.countP_map, stats]
  apply List.countP_congr
  intro raw _
  rw [isRemoved_eq]
  rfl

/-- The copy lacks a line exactly if the scan counts it in an entry. -/
theorem isRemoved_iff_counted (log : Bytes) (i : Fin (Line.split log).length) :
    isRemoved ((Line.split log).get i) = true ↔ ∃ p, Scan.CountedAt (Line.texts log) i p := by
  have hi : (Line.texts log)[i.1]? = some (Line.text ((Line.split log).get i)) := by
    rw [Line.texts, List.getElem?_map, List.getElem?_eq_getElem i.2]
    rfl
  rw [Scan.exists_countedAt_iff, hi, isRemoved_eq]
  simp [Scan.keyOf?_eq_some_iff]

/-! ## What a delivery returns -/

theorem result_stats {log : Bytes} {outcome : Delivery.Outcome} {s : Stats}
    (h : result log outcome = .ok s) : s = stats log := by
  unfold result at h
  split at h
  · exact (Except.ok.inj h).symm
  · cases h

theorem result_unbounded (log : Bytes) :
    result log ((delivery log).sendTo .unbounded) = .ok (stats log) := by
  rw [sendTo_delivery]
  rfl

end MismatchLog.Filtered
