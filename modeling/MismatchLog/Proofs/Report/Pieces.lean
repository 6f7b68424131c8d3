import MismatchLog.Proofs.Sink.Delivery
import MismatchLog.Report

/-!
# A report and its pieces

Whatever the pieces in which a writer hands a report over, and whatever buffer of its own it has,
`bytes_delivery` says that they are the report, in every format.
-/

namespace MismatchLog

theorem Utf8.encode_append (s t : Text) : encode (s ++ t) = encode s ++ encode t :=
  List.flatMap_append

theorem Utf8.encode_flatten (units : List Text) :
    encode units.flatten = units.flatMap encode := by
  induction units with
  | nil => rfl
  | cons unit units ih => rw [List.flatten_cons, encode_append, ih, List.flatMap_cons]

/-- Pieces of parts, put together part by part. -/
theorem flatten_flatMap {α β : Type} (parts : List α) (pieces : α → List (List β)) :
    (parts.flatMap pieces).flatten = parts.flatMap fun part => (pieces part).flatten := by
  rw [List.flatMap_def, List.flatten_flatten, List.map_map, List.flatMap_def]
  rfl

theorem Csv.flatten_pieces (unit : Text) : (pieces unit).flatten = Utf8.encode unit := by
  unfold pieces
  split
  · exact List.flatten_singleton
  · exact List.flatMap_singleton' _

namespace Report

theorem flatten_bytewise (t : Text) : (bytewise t).flatten = Utf8.encode t :=
  List.flatMap_singleton' _

/-- The units of the records make up the document. -/
theorem flatten_csvUnits (t : Tally) : (csvUnits t).flatten = Csv.document (records t) :=
  flatten_flatMap _ _

/-- What is handed over for a report is the report. -/
theorem bytes_delivery (format : Format) (counts : Bool) (t : Tally) :
    (delivery format counts t).bytes = Utf8.encode (render format counts t) := by
  cases format with
  | text => simp [delivery, Delivery.bytes, flatten_bytewise, render]
  | json => simp [delivery, Delivery.bytes, flatten_bytewise, render, Utf8.encode_append]
  | csv =>
    have hunits : ((csvUnits t).flatMap Csv.pieces).flatten = Utf8.encode (csvUnits t).flatten := by
      rw [flatten_flatMap, Utf8.encode_flatten]
      simp only [Csv.flatten_pieces]
    rw [delivery, Delivery.bytes_buffered, Delivery.bytes, hunits, flatten_csvUnits,
      List.flatten_nil, List.append_nil]
    rfl

theorem sendTo_delivery (format : Format) (counts : Bool) (t : Tally) :
    (delivery format counts t).sendTo .unbounded = ⟨Utf8.encode (render format counts t), none⟩ := by
  rw [Delivery.sendTo_unbounded, bytes_delivery]

end Report
end MismatchLog
