import MismatchLog.Sink

/-!
# Pieces and the whole

A writer hands its bytes over in pieces, and buffers cut them anew. None of that can be seen in a
sink that takes them all:

* `bytes_buffered`: a buffer keeps the bytes of a delivery and their order;
* `sendTo_working`: a working sink takes all of them.
-/

namespace MismatchLog

/-- A sink without bounds whose flushes succeed. -/
structure Sink.Works (s : Sink) : Prop where
  room : s.room = none
  onFlush : s.onFlush = none

theorem Sink.works_unbounded : Sink.unbounded.Works := ⟨rfl, rfl⟩

namespace Delivery

/-- All that a delivery hands over. -/
def bytes (d : Delivery) : Bytes := d.body.flatten ++ d.closing.flatten

theorem bytes_buffered (size : Nat) (d : Delivery) : (d.buffered size).bytes = d.bytes := by
  have hbody := Buffer.flatten_blocks size #[] d.body
  have hclosing := Buffer.flatten_blocks size (Buffer.blocks size #[] d.body).2 d.closing
  rw [bytes, buffered, List.flatten_append, List.flatten_singleton, hclosing, ← List.append_assoc,
    hbody]
  rfl

theorem sendTo_working {s : Sink} (hs : s.Works) (d : Delivery) :
    d.sendTo s = ⟨d.bytes, none⟩ := by
  simp [sendTo, hs.room, hs.onFlush, Sink.offer_none, bytes]

theorem sendTo_unbounded (d : Delivery) : d.sendTo .unbounded = ⟨d.bytes, none⟩ :=
  sendTo_working Sink.works_unbounded d

end Delivery
end MismatchLog
