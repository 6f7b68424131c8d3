import MismatchLog.Proofs.Report.Pieces
import MismatchLog.Proofs.Sink.Stages

/-!
# Which kind a report's failure is

A report that does not go through fails in the stream itself, or while a writer of structured output
is still at work:

* `failsAs_iff`: the kind follows from the room of the sink and the lengths of the whole report and
  of what is handed over at work;
* `length_body_json`, `Handover`: that is all but the last line feed of an array of objects, and all
  but the last block of the records;
* `failure_kind_by_room`: so the lengths alone decide about the kind, in every format.
-/

namespace MismatchLog

theorem Csv.length_le_of_mem_pieces {unit : Text} {p : Bytes} (h : p ∈ pieces unit) :
    p.length ≤ 2 := by
  unfold pieces at h
  split at h
  · rename_i hquotes
    rw [List.mem_singleton.mp h, hquotes]
    decide
  · obtain ⟨b, -, rfl⟩ := List.mem_map.mp h
    simp

namespace Report

variable {counts : Bool} {path : Text} {t : Tally}

/-- Writing a report to a sink fails, and the failure is of this kind. -/
def FailsAs (format : Format) (counts : Bool) (path : Text) (t : Tally) (sink : Sink)
    (kind : ReportError.Kind) : Prop :=
  ∃ e, result format path t ((delivery format counts t).sendTo sink) = .error ⟨kind, path, e⟩

/-- The length of a report in bytes. -/
def size (format : Format) (counts : Bool) (t : Tally) : Nat :=
  (Utf8.encode (render format counts t)).length

/-! ## Stages and kinds -/

theorem failureKind_closing (format : Format) : failureKind format .closing = .io := by
  cases format <;> rfl

theorem length_body_le_size (format : Format) :
    (delivery format counts t).body.flatten.length ≤ size format counts t := by
  rw [size, ← bytes_delivery, Delivery.bytes, List.length_append]
  omega

theorem failsAs_iff_failure {format : Format} {sink : Sink} {kind : ReportError.Kind} :
    FailsAs format counts path t sink kind ↔
      ∃ stage e, ((delivery format counts t).sendTo sink).failure = some (stage, e) ∧
        failureKind format stage = kind := by
  unfold FailsAs result
  cases ((delivery format counts t).sendTo sink).failure with
  | none => simp
  | some failed => simp [Prod.ext_iff]

/-- A failure at work has the kind of the writer. A later one, for lack of room or in the flush, is
one of the stream. -/
theorem failsAs_iff {format : Format} {room : Nat} {onFull : IoError} {onFlush : Option IoError}
    {kind : ReportError.Kind} :
    FailsAs format counts path t ⟨some room, onFull, onFlush⟩ kind ↔
      (kind = failureKind format .body ∧ room < (delivery format counts t).body.flatten.length) ∨
      (kind = .io ∧ (delivery format counts t).body.flatten.length ≤ room ∧
        (room < size format counts t ∨ onFlush ≠ none)) := by
  rw [failsAs_iff_failure, Delivery.failure_sendTo_bounded, bytes_delivery, ← size]
  generalize (delivery format counts t).body.flatten.length = atWork
  by_cases hbody : room < atWork
  · simp [hbody, Nat.not_le_of_lt hbody, eq_comm]
  · have hkept : atWork ≤ room := Nat.le_of_not_lt hbody
    by_cases hsize : room < size format counts t
    · simp [hbody, hsize, hkept, failureKind_closing, eq_comm]
    · cases onFlush <;> simp [hbody, hsize, hkept, failureKind_closing, eq_comm]

/-! ## What is handed over at work -/

theorem length_body_text :
    (delivery .text counts t).body.flatten.length = size .text counts t := by
  rw [size, ← bytes_delivery, Delivery.bytes, delivery, List.flatten_nil, List.append_nil]

theorem length_body_json :
    (delivery .json counts t).body.flatten.length = size .json counts t - 1 := by
  have hbytes := congrArg List.length (@bytes_delivery .json counts t)
  rw [Delivery.bytes, List.length_append] at hbytes
  have hclosing : (delivery .json counts t).closing.flatten.length = 1 := by
    rw [delivery, flatten_bytewise]
    rfl
  rw [size]
  omega

theorem size_json_pos : 0 < size .json counts t := by
  rw [size, render, Utf8.encode_append, List.length_append]
  exact Nat.lt_add_left _ (by decide)

/-- The blocks in which records of a size are handed over: all but the last are as full as they can
be with pieces of two bytes, and the last is what the buffer still holds. -/
structure Handover (d : Delivery) (size : Nat) : Prop where
  last : ∃ block, d.closing = [block] ∧ block.length ≤ Buffer.capacity
  full : ∀ block ∈ d.body, Buffer.capacity < block.length + 2 ∧ block.length ≤ Buffer.capacity
  whole : (d.body ++ d.closing).flatten.length = size
  small : d.body = [] ↔ size ≤ Buffer.capacity

theorem handover : Handover (delivery .csv counts t) (size .csv counts t) := by
  have hpieces : ∀ p ∈ (csvUnits t).flatMap Csv.pieces, p.length ≤ 2 := by
    intro p hp
    obtain ⟨unit, -, hunit⟩ := List.mem_flatMap.mp hp
    exact Csv.length_le_of_mem_pieces hunit
  have hsmall : 2 < Buffer.capacity := by decide
  have hempty : (#[] : Array UInt8).size ≤ Buffer.capacity := by decide
  obtain ⟨hfull, hlast⟩ := Buffer.full_of_mem_blocks hsmall hempty hpieces
  have hwhole : ((delivery .csv counts t).body ++ (delivery .csv counts t).closing).flatten.length =
      size .csv counts t := by
    rw [List.flatten_append, ← Delivery.bytes, bytes_delivery, size]
  have hunits : ((csvUnits t).flatMap Csv.pieces).flatten.length = size .csv counts t := by
    have hbytes := @Delivery.bytes_buffered Buffer.capacity ⟨(csvUnits t).flatMap Csv.pieces, []⟩
    rw [size, ← bytes_delivery, delivery, hbytes, Delivery.bytes, List.flatten_nil, List.append_nil]
  refine ⟨⟨_, rfl, ?_⟩, hfull, hwhole, ?_⟩
  · rw [Array.length_toList]
    exact hlast
  · rw [← hunits]
    exact Delivery.body_buffered_eq_nil_iff hsmall hpieces

/-- A failure at work comes of a block that does not fit and is not the last. -/
theorem room_lt_body_iff {d : Delivery} {n room : Nat} (h : Handover d n) :
    room < d.body.flatten.length ↔
      ∃ i, Delivery.CrossesAt (d.body ++ d.closing) room i ∧ i ≠ d.body.length := by
  obtain ⟨block, hclosing, -⟩ := h.last
  rw [← @Delivery.crossesAt_body_iff room d.body d.closing]
  apply exists_congr
  intro i
  apply and_congr_right
  intro hcrosses
  have hi : i < d.body.length + 1 := by simpa [hclosing] using hcrosses.1
  omega

theorem crossesAt_last_iff {d : Delivery} {n room : Nat} (h : Handover d n) :
    Delivery.CrossesAt (d.body ++ d.closing) room d.body.length ↔
      d.body.flatten.length ≤ room ∧ room < n := by
  obtain ⟨block, hclosing, -⟩ := h.last
  rw [← h.whole, hclosing, Delivery.crossesAt_closing_iff]

/-- The first block is as full as it can be, so a smaller room does not hold it. -/
theorem lt_length_body {d : Delivery} {n : Nat} (h : Handover d n) (hn : Buffer.capacity < n) :
    Buffer.capacity < d.body.flatten.length + 2 := by
  cases hbody : d.body with
  | nil =>
    have hsmall := h.small.mp hbody
    omega
  | cons block rest =>
    obtain ⟨hblock, -⟩ := h.full block (by rw [hbody]; exact List.mem_cons_self)
    rw [List.flatten_cons, List.length_append]
    omega

/-- **Lengths decide which kind a report's failure is.** A text report fails in the stream only. An
array of objects fails in its own writer if not even its body fits, and in the stream if just the
last line feed is too much or if only the flush fails. Records are handed over in blocks; they fail
in their own writer if the block that does not fit is not the last one, which is handed over by the
final flush, and in the stream if it is, or if only the flush fails. -/
theorem failure_kind_by_room (counts : Bool) (path : Text) (t : Tally) (room : Nat)
    (onFull : IoError) (onFlush : Option IoError) :
    let sink : Sink := ⟨some room, onFull, onFlush⟩
    let d := delivery .csv counts t
    (∀ kind, FailsAs .text counts path t sink kind ↔
      kind = .io ∧ (room < size .text counts t ∨ onFlush ≠ none)) ∧
    (∀ kind, FailsAs .json counts path t sink kind ↔
      (kind = .json ∧ room < size .json counts t - 1) ∨
      (kind = .io ∧ (room = size .json counts t - 1 ∨
        (size .json counts t ≤ room ∧ onFlush ≠ none)))) ∧
    Handover d (size .csv counts t) ∧
    (∀ kind, FailsAs .csv counts path t sink kind ↔
      (kind = .csv ∧
        ∃ i, Delivery.CrossesAt (d.body ++ d.closing) room i ∧ i ≠ d.body.length) ∨
      (kind = .io ∧ (Delivery.CrossesAt (d.body ++ d.closing) room d.body.length ∨
        (size .csv counts t ≤ room ∧ onFlush ≠ none)))) ∧
    (size .csv counts t ≤ 8192 ∨ size .csv counts t ≤ room →
      ∀ kind, FailsAs .csv counts path t sink kind → kind = .io) ∧
    (8192 < size .csv counts t → room < 8191 → FailsAs .csv counts path t sink .csv) := by
  intro sink d
  have hrecords : Handover d (size .csv counts t) := handover
  have hle : d.body.flatten.length ≤ size .csv counts t := length_body_le_size .csv
  have hcsv (kind : ReportError.Kind) : FailsAs .csv counts path t sink kind ↔
      (kind = .csv ∧ room < d.body.flatten.length) ∨
      (kind = .io ∧ d.body.flatten.length ≤ room ∧
        (room < size .csv counts t ∨ onFlush ≠ none)) := failsAs_iff
  refine ⟨?_, ?_, hrecords, ?_, ?_, ?_⟩
  · intro kind
    have hkind : failureKind .text .body = .io := rfl
    rw [failsAs_iff, length_body_text, hkind]
    grind
  · intro kind
    have hpos := @size_json_pos counts t
    have hkind : failureKind .json .body = .json := rfl
    rw [failsAs_iff, length_body_json, hkind]
    grind
  · intro kind
    rw [hcsv, crossesAt_last_iff hrecords, ← room_lt_body_iff hrecords]
    grind
  · rintro hfits kind hfails
    rcases (hcsv kind).mp hfails with ⟨-, hroom⟩ | ⟨hio, -⟩
    · rcases hfits with hsmall | hlarge
      · rw [hrecords.small.mpr hsmall] at hroom
        cases hroom
      · omega
    · exact hio
  · intro hlong hroom
    have hfirst := lt_length_body hrecords hlong
    have hcapacity : Buffer.capacity = 8192 := rfl
    exact (hcsv .csv).mpr (.inl ⟨rfl, by omega⟩)

/-- A tally of one line, of this length. -/
def lineTally (n : Nat) : Tally := ⟨#[⟨1, List.replicate n 'a', .rawLine []⟩], ∅, 1, 1⟩

theorem size_lineTally (n : Nat) : n < size .csv false (lineTally n) := by
  have ha : 'a'.utf8Size = 1 := rfl
  have hlf : '\n'.utf8Size = 1 := rfl
  simp [size, render, lineTally, records, header, Entry.toRecord, Csv.document, Csv.record,
    Csv.recordUnits, Csv.fieldUnits, Csv.needsQuotes, Utf8.encode, ha, hlf]
  omega

/-- A line that fits into no block breaks off in the first one; a header alone breaks off in the
final flush. -/
theorem failure_kind_by_room_records :
    8192 < size .csv false (lineTally 8192) ∧
    FailsAs .csv false "out".toList (lineTally 8192) ⟨some 8190, .noSpace, none⟩ .csv ∧
    size .csv false .empty ≤ 8192 ∧
    FailsAs .csv false "out".toList .empty ⟨some 3, .noSpace, none⟩ .io ∧
    ¬ FailsAs .csv false "out".toList .empty ⟨some 3, .noSpace, none⟩ .csv := by
  have hlong := size_lineTally 8192
  have hshort : size .csv false .empty ≤ 8192 := by decide
  obtain ⟨-, -, -, -, -, hfirst⟩ :=
    failure_kind_by_room false "out".toList (lineTally 8192) 8190 .noSpace none
  obtain ⟨-, -, -, hkinds, hstream, -⟩ :=
    failure_kind_by_room false "out".toList .empty 3 .noSpace none
  refine ⟨hlong, hfirst hlong (by decide), hshort, ?_, ?_⟩
  · refine (hkinds .io).mpr (.inr ⟨rfl, .inl ?_⟩)
    unfold Delivery.CrossesAt
    decide
  · intro hcsv
    cases hstream (.inl hshort) .csv hcsv

end Report
end MismatchLog
