import MismatchLog.Proofs.Filtered.Partition
import MismatchLog.Proofs.Report.Pieces
import MismatchLog.Proofs.Sink.Stages

/-!
# A sink that runs out of room

* `taken_sendTo_bounded`: it takes the first bytes of a delivery, as many as it has room for, in
  whatever pieces they come;
* `failure_sendTo_eq_none_iff`: the delivery goes through exactly if all bytes fit and flushes
  succeed;
* `taken_sendTo`, `failure_sendTo_iff_takes`: so any sink holds the beginning that it has room for
  (`Sink.beginning`), and all goes through exactly to a sink that takes it (`Sink.Takes`);
* `insist_offers`: a writer that was refused a piece, and offers it again before it is given up,
  adds nothing.

Reports and filtered copies are deliveries, so they break off without a gap or a repetition.
-/

namespace MismatchLog

/-- A sink has room for these bytes, and its flushes succeed. -/
structure Sink.Takes (s : Sink) (bytes : Bytes) : Prop where
  room : ∀ room, s.room = some room → bytes.length ≤ room
  onFlush : s.onFlush = none

/-- The first of some bytes, as many as a sink has room for. -/
def Sink.beginning (s : Sink) (bytes : Bytes) : Bytes :=
  match s.room with
  | none => bytes
  | some room => bytes.take room

theorem Sink.Takes.beginning_eq {s : Sink} {bytes : Bytes} (h : s.Takes bytes) :
    s.beginning bytes = bytes := by
  unfold beginning
  split
  · rfl
  · rename_i room hroom
    exact List.take_of_length_le (h.room room hroom)

theorem Sink.Works.takes {s : Sink} (h : s.Works) (bytes : Bytes) : s.Takes bytes := by
  refine ⟨?_, h.onFlush⟩
  intro room hroom
  rw [h.room] at hroom
  cases hroom

namespace Delivery

variable (room : Nat) (onFull : IoError) (onFlush : Option IoError)

/-- A sink takes the first bytes of a delivery. -/
theorem taken_sendTo_bounded (d : Delivery) :
    (d.sendTo ⟨some room, onFull, onFlush⟩).taken = d.bytes.take room := by
  have hbody := Sink.taken_offer_some room d.body
  have hfull := Sink.full_offer_some room d.body
  rw [sendTo, bytes, List.take_append]
  dsimp only
  by_cases hlt : room < d.body.flatten.length
  · rw [if_pos (by rw [hfull, decide_eq_true hlt]), hbody, Nat.sub_eq_zero_of_le (Nat.le_of_lt hlt),
      List.take_zero, List.append_nil]
  · have htaken : ((Sink.offer (some room) d.body).taken ++
        (Sink.offer (Sink.offer (some room) d.body).room d.closing).taken) =
          d.body.flatten.take room ++ d.closing.flatten.take (room - d.body.flatten.length) := by
      rw [hbody, Sink.room_offer_some, Sink.taken_offer_some]
    rw [if_neg (by rw [hfull, decide_eq_false hlt]; exact Bool.false_ne_true)]
    split <;> exact htaken

/-- A delivery goes through if all of it fits and the flush succeeds, and only then. -/
theorem failure_sendTo_eq_none_iff (d : Delivery) :
    (d.sendTo ⟨some room, onFull, onFlush⟩).failure = none ↔
      d.bytes.length ≤ room ∧ onFlush = none := by
  have hbody : d.body.flatten.length ≤ d.bytes.length := by
    rw [bytes, List.length_append]
    omega
  rw [failure_sendTo_bounded]
  split
  · simp only [reduceCtorEq, false_iff, not_and]
    omega
  · split
    · simp only [reduceCtorEq, false_iff, not_and]
      omega
    · rename_i hfits
      rw [Option.map_eq_none_iff, and_iff_right (Nat.le_of_not_lt hfits)]

theorem sendTo_roomy (d : Delivery) :
    d.sendTo ⟨none, onFull, onFlush⟩ = ⟨d.bytes, onFlush.map fun e => (.closing, e)⟩ := by
  simp [sendTo, Sink.offer_none, bytes]

/-- A sink holds what it has room for. -/
theorem taken_sendTo (d : Delivery) (s : Sink) : (d.sendTo s).taken = s.beginning d.bytes := by
  obtain ⟨room, onFull, onFlush⟩ := s
  cases room with
  | none => rw [sendTo_roomy, Sink.beginning]
  | some room => rw [taken_sendTo_bounded, Sink.beginning]

/-- A delivery goes through to the sinks that take it, and to no others. -/
theorem failure_sendTo_iff_takes {d : Delivery} {s : Sink} :
    (d.sendTo s).failure = none ↔ s.Takes d.bytes := by
  obtain ⟨room, onFull, onFlush⟩ := s
  cases room with
  | none =>
    rw [sendTo_roomy, Option.map_eq_none_iff]
    exact ⟨fun hflush => ⟨nofun, hflush⟩, fun htakes => htakes.onFlush⟩
  | some room =>
    rw [failure_sendTo_eq_none_iff]
    constructor
    · rintro ⟨hfits, hflush⟩
      refine ⟨?_, hflush⟩
      rintro _ ⟨⟩
      exact hfits
    · exact fun htakes => ⟨htakes.room room rfl, htakes.onFlush⟩

/-! ## A writer that is given up -/

/-- What a sink has taken of pieces that are all offered, whether or not earlier ones were refused. -/
def insist (room : Nat) : List Bytes → Bytes
  | [] => []
  | piece :: rest => piece.take room ++ insist (room - piece.length) rest

/-- The pieces that are offered by a writer that stops where one is refused, and then, when it is
given up, offers once more what it still holds. -/
def offersUntilRefused (room : Nat) : List Bytes → List Bytes
  | [] => []
  | piece :: rest =>
    if piece.length ≤ room then piece :: offersUntilRefused (room - piece.length) rest
    else [piece, piece]

def offers (room : Nat) (d : Delivery) : List Bytes :=
  offersUntilRefused room (d.body ++ d.closing)

theorem insist_eq_take (room : Nat) (pieces : List Bytes) :
    insist room pieces = pieces.flatten.take room := by
  induction pieces generalizing room with
  | nil => simp [insist]
  | cons piece rest ih => rw [insist, ih, List.flatten_cons, List.take_append]

theorem take_offersUntilRefused (room : Nat) (pieces : List Bytes) :
    (offersUntilRefused room pieces).flatten.take room = pieces.flatten.take room := by
  induction pieces generalizing room with
  | nil => rfl
  | cons piece rest ih =>
    rw [offersUntilRefused]
    split
    · simp only [List.flatten_cons, List.take_append, ih]
    · rename_i hlong
      have hle : room ≤ piece.length := Nat.le_of_not_le hlong
      simp only [List.flatten_cons, List.take_append_of_le_length hle]

/-- Nothing is taken twice. -/
theorem insist_offers (d : Delivery) :
    insist room (d.offers room) = (d.sendTo ⟨some room, onFull, onFlush⟩).taken := by
  rw [taken_sendTo_bounded, insist_eq_take, offers, take_offersUntilRefused, List.flatten_append,
    bytes]

end Delivery

/-! ## Reports and copies -/

theorem Report.result_eq_ok_iff {format : Format} {path : Text} {t : Tally}
    {outcome : Delivery.Outcome} {n : Nat} :
    result format path t outcome = .ok n ↔ outcome.failure = none ∧ n = t.size := by
  unfold result
  cases outcome.failure <;> simp [eq_comm]

theorem Filtered.result_eq_ok_iff {log : Bytes} {outcome : Delivery.Outcome} {s : Stats} :
    result log outcome = .ok s ↔ outcome.failure = none ∧ s = stats log := by
  unfold result
  cases outcome.failure <;> simp [eq_comm]

namespace Delivery

variable (room : Nat) (onFull : IoError) (onFlush : Option IoError)

/-- How a delivery to a sink with bounded room compares with the same delivery to one without
bounds. -/
structure BreaksOff (d : Delivery) : Prop where
  /-- The first bytes are taken, without a gap or a repetition. -/
  taken : (d.sendTo ⟨some room, onFull, onFlush⟩).taken =
    (d.sendTo .unbounded).taken.take (min room (d.sendTo .unbounded).taken.length)
  /-- The writer may offer the refused piece again before it is given up. -/
  givenUp : insist room (d.offers room) = (d.sendTo ⟨some room, onFull, onFlush⟩).taken
  /-- It goes through if everything fits and flushes succeed, and only then. -/
  through : (d.sendTo ⟨some room, onFull, onFlush⟩).failure = none ↔
    (d.sendTo .unbounded).taken.length ≤ room ∧ onFlush = none

theorem breaksOff (d : Delivery) : BreaksOff room onFull onFlush d := by
  refine ⟨?_, insist_offers room onFull onFlush d, ?_⟩
  · rw [taken_sendTo_bounded, sendTo_unbounded, ← List.take_eq_take_min]
  · rw [failure_sendTo_eq_none_iff, sendTo_unbounded]

/-- **A sink that runs out of room holds the beginning** of the report or the copy that was written
to it, and the writing succeeds exactly if all of it fits and flushes succeed; then it returns what
it would have returned without bounds. -/
theorem bounded_sink_holds_beginning :
    (∀ (format : Format) (counts : Bool) (path : Text) (t : Tally),
      BreaksOff room onFull onFlush (Report.delivery format counts t) ∧
      Report.result format path t ((Report.delivery format counts t).sendTo .unbounded) =
        .ok t.size ∧
      ∀ n, Report.result format path t
          ((Report.delivery format counts t).sendTo ⟨some room, onFull, onFlush⟩) = .ok n ↔
        (((Report.delivery format counts t).sendTo .unbounded).taken.length ≤ room ∧
          onFlush = none) ∧ n = t.size) ∧
    ∀ log : Bytes,
      BreaksOff room onFull onFlush (Filtered.delivery log) ∧
      Filtered.result log ((Filtered.delivery log).sendTo .unbounded) = .ok (Filtered.stats log) ∧
      ∀ s, Filtered.result log
          ((Filtered.delivery log).sendTo ⟨some room, onFull, onFlush⟩) = .ok s ↔
        (((Filtered.delivery log).sendTo .unbounded).taken.length ≤ room ∧ onFlush = none) ∧
          s = Filtered.stats log := by
  refine ⟨?_, ?_⟩
  · intro format counts path t
    have hbreaks := breaksOff room onFull onFlush (Report.delivery format counts t)
    refine ⟨hbreaks, ?_, ?_⟩
    · rw [sendTo_unbounded]
      rfl
    · intro n
      rw [Report.result_eq_ok_iff, hbreaks.through]
  · intro log
    have hbreaks := breaksOff room onFull onFlush (Filtered.delivery log)
    refine ⟨hbreaks, Filtered.result_unbounded log, ?_⟩
    intro s
    rw [Filtered.result_eq_ok_iff, hbreaks.through]

end Delivery
end MismatchLog
