import MismatchLog.Failure

/-!
Sinks, buffers and deliveries. A sink takes bytes until its room is used up. A buffer gathers small
pieces into blocks. A delivery is what a writer hands to a sink: pieces while it is at work, pieces
at its end, and a flush.
-/

namespace MismatchLog

/-- A destination for bytes. Without a bound it takes everything. -/
structure Sink where
  room : Option Nat
  /-- The failure of a write for which there is no room left. -/
  onFull : IoError
  /-- The failure of every flush, if flushes fail. -/
  onFlush : Option IoError

namespace Sink

/-- Takes everything and flushes without fail. -/
def unbounded : Sink := ⟨none, .noSpace, none⟩

/-- Has no room at all. -/
def full : Sink := ⟨some 0, .noSpace, none⟩

/-- What became of the pieces that were offered. -/
structure Reception where
  taken : Bytes
  room : Option Nat
  /-- A piece did not fit. -/
  full : Bool

/-- Offers pieces one after the other. Of a piece that does not fit the first bytes are taken, as
many as there is room for, and nothing after it is offered. -/
def offer : Option Nat → List Bytes → Reception
  | room, [] => ⟨[], room, false⟩
  | none, piece :: rest =>
    let r := offer none rest
    { r with taken := piece ++ r.taken }
  | some n, piece :: rest =>
    if piece.length ≤ n then
      let r := offer (some (n - piece.length)) rest
      { r with taken := piece ++ r.taken }
    else ⟨piece.take n, some 0, true⟩

theorem offer_none (pieces : List Bytes) : offer none pieces = ⟨pieces.flatten, none, false⟩ := by
  induction pieces with
  | nil => rfl
  | cons piece rest ih => simp [offer, ih]

/-- A sink with room for `n` bytes takes the first `n` of what it is offered, however that is cut
into pieces. -/
theorem taken_offer_some (n : Nat) (pieces : List Bytes) :
    (offer (some n) pieces).taken = pieces.flatten.take n := by
  induction pieces generalizing n with
  | nil => simp [offer]
  | cons piece rest ih =>
    rw [offer]
    split
    · rename_i h
      simp [ih, List.take_append, List.take_of_length_le h]
    · rename_i h
      simp [List.take_append, Nat.sub_eq_zero_of_le (Nat.le_of_not_le h)]

/-- It fails exactly if it is offered more. -/
theorem full_offer_some (n : Nat) (pieces : List Bytes) :
    (offer (some n) pieces).full = decide (n < pieces.flatten.length) := by
  induction pieces generalizing n with
  | nil => simp [offer]
  | cons piece rest ih =>
    rw [offer]
    split
    · simp only [ih, List.flatten_cons, List.length_append, decide_eq_decide]
      omega
    · simp only [List.flatten_cons, List.length_append, Bool.true_eq, decide_eq_true_eq]
      omega

theorem room_offer_some (n : Nat) (pieces : List Bytes) :
    (offer (some n) pieces).room = some (n - pieces.flatten.length) := by
  induction pieces generalizing n with
  | nil => simp [offer]
  | cons piece rest ih =>
    rw [offer]
    split
    · simp only [ih, List.flatten_cons, List.length_append, Option.some.injEq]
      omega
    · simp only [List.flatten_cons, List.length_append, Option.some.injEq]
      omega

end Sink

namespace Buffer

/-- The number of bytes that a buffer gathers. -/
def capacity : Nat := 8192

/-- The blocks that a buffer hands over while pieces are written to it, and what it holds after
them. A piece that does not fit drives out what is held; one as large as the buffer is handed over
as it is. -/
def blocks (size : Nat) (held : Array UInt8) : List Bytes → List Bytes × Array UInt8
  | [] => ([], held)
  | piece :: rest =>
    if held.size + piece.length ≤ size then
      if piece.length < size then blocks size (held ++ piece) rest
      else
        let r := blocks size held rest
        (piece :: r.1, r.2)
    else if piece.length < size then
      let r := blocks size piece.toArray rest
      (held.toList :: r.1, r.2)
    else
      let r := blocks size #[] rest
      (held.toList :: piece :: r.1, r.2)

/-- A buffer keeps all bytes and their order. -/
theorem flatten_blocks (size : Nat) (held : Array UInt8) (pieces : List Bytes) :
    (blocks size held pieces).1.flatten ++ (blocks size held pieces).2.toList =
      held.toList ++ pieces.flatten := by
  fun_induction blocks size held pieces with
  | case1 held => simp
  | case2 held piece rest fits small ih => simp [ih]
  | case3 held piece rest fits large r ih =>
    have : held.toList = [] := by
      have : held.size = 0 := by omega
      simpa [← Array.size_eq_zero_iff] using this
    simp_all [r]
  | case4 held piece rest full small r ih => simp [r, ih]
  | case5 held piece rest full large r ih => simp [r, ih]

end Buffer

structure Delivery where
  /-- Handed over while the writer is at work. -/
  body : List Bytes
  /-- Handed over when it finishes, before the flush. -/
  closing : List Bytes

namespace Delivery

inductive Stage where
  | body
  | closing
  deriving DecidableEq, Repr

/-- The same delivery through a buffer, which hands over the last of it at the end. -/
def buffered (size : Nat) (d : Delivery) : Delivery :=
  let body := Buffer.blocks size #[] d.body
  let closing := Buffer.blocks size body.2 d.closing
  ⟨body.1, closing.1 ++ [closing.2.toList]⟩

structure Outcome where
  taken : Bytes
  failure : Option (Stage × IoError)

/-- Delivers to a sink and stops at the first failure. -/
def sendTo (d : Delivery) (sink : Sink) : Outcome :=
  let body := Sink.offer sink.room d.body
  if body.full then ⟨body.taken, some (.body, sink.onFull)⟩
  else
    let closing := Sink.offer body.room d.closing
    if closing.full then ⟨body.taken ++ closing.taken, some (.closing, sink.onFull)⟩
    else ⟨body.taken ++ closing.taken, sink.onFlush.map fun e => (.closing, e)⟩

end Delivery
end MismatchLog
