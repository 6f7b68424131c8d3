import MismatchLog.Proofs.Sink.Delivery

/-!
# The stage at which a delivery fails

* `failure_sendTo_bounded`: a sink with bounded room fails a delivery in its body, in its closing or
  in the flush, by where the room ends;
* `exists_crossesAt_iff`: some piece is the first that does not fit, unless all of them do, and
  `crossesAt_body_iff`, `crossesAt_closing_iff` say when it belongs to the body and when to the
  closing;
* `full_of_mem_blocks`, `blocks_eq_nil_iff`: a buffer hands a block over only when the next piece
  does not fit into it, so it hands nothing over of what it can hold.
-/

namespace MismatchLog

namespace Delivery

variable (room : Nat) (onFull : IoError) (onFlush : Option IoError)

/-- Where the room ends decides at which stage a delivery fails. -/
theorem failure_sendTo_bounded (d : Delivery) :
    (d.sendTo ⟨some room, onFull, onFlush⟩).failure =
      if room < d.body.flatten.length then some (.body, onFull)
      else if room < d.bytes.length then some (.closing, onFull)
      else onFlush.map fun e => (.closing, e) := by
  have hbody := Sink.full_offer_some room d.body
  have hroom := Sink.room_offer_some room d.body
  have hclosing := Sink.full_offer_some (room - d.body.flatten.length) d.closing
  rw [sendTo, bytes, List.length_append]
  dsimp only
  rw [hbody, hroom, hclosing]
  by_cases hlt : room < d.body.flatten.length
  · simp only [hlt, decide_true, if_true]
  · have hrest : room - d.body.flatten.length < d.closing.flatten.length ↔
        room < d.body.flatten.length + d.closing.flatten.length := by omega
    simp only [hlt, decide_false, Bool.false_eq_true, if_false, decide_eq_true_eq, hrest]
    split <;> rfl

/-! ## The piece that does not fit -/

variable {room}

/-- All pieces before this one fit into the room, and this one does not. -/
def CrossesAt (pieces : List Bytes) (room i : Nat) : Prop :=
  i < pieces.length ∧ (pieces.take i).flatten.length ≤ room ∧
    room < (pieces.take (i + 1)).flatten.length

theorem crossesAt_cons_succ {piece : Bytes} {rest : List Bytes} {i : Nat} :
    CrossesAt (piece :: rest) room (i + 1) ↔
      piece.length ≤ room ∧ CrossesAt rest (room - piece.length) i := by
  simp only [CrossesAt, List.length_cons, List.take_succ_cons, List.flatten_cons,
    List.length_append]
  omega

theorem exists_crossesAt_iff {pieces : List Bytes} :
    (∃ i, CrossesAt pieces room i) ↔ room < pieces.flatten.length := by
  induction pieces generalizing room with
  | nil => simp [CrossesAt]
  | cons piece rest ih =>
    rw [List.flatten_cons, List.length_append]
    constructor
    · rintro ⟨i, hi⟩
      cases i with
      | zero =>
        have hfirst : room < piece.length := by simpa using hi.2.2
        omega
      | succ i =>
        obtain ⟨hfits, hrest⟩ := crossesAt_cons_succ.mp hi
        have hlater := ih.mp ⟨i, hrest⟩
        omega
    · intro hroom
      by_cases hfits : piece.length ≤ room
      · obtain ⟨i, hi⟩ := (@ih (room - piece.length)).mpr (by omega)
        exact ⟨i + 1, crossesAt_cons_succ.mpr ⟨hfits, hi⟩⟩
      · refine ⟨0, Nat.zero_lt_succ _, Nat.zero_le _, ?_⟩
        simpa using hfits

/-- It is one of the first pieces exactly if not all of those fit. -/
theorem crossesAt_body_iff {body closing : List Bytes} :
    (∃ i, CrossesAt (body ++ closing) room i ∧ i < body.length) ↔
      room < body.flatten.length := by
  have hbody (i : Nat) (hi : i < body.length) :
      CrossesAt (body ++ closing) room i ↔ CrossesAt body room i := by
    have hlong : i < body.length + closing.length := by omega
    simp only [CrossesAt, List.length_append, List.take_append_of_le_length (Nat.le_of_lt hi),
      List.take_append_of_le_length hi, hi, hlong]
  rw [← exists_crossesAt_iff]
  constructor
  · rintro ⟨i, hcrosses, hi⟩
    exact ⟨i, (hbody i hi).mp hcrosses⟩
  · rintro ⟨i, hcrosses⟩
    exact ⟨i, (hbody i hcrosses.1).mpr hcrosses, hcrosses.1⟩

theorem crossesAt_closing_iff {body : List Bytes} {last : Bytes} :
    CrossesAt (body ++ [last]) room body.length ↔
      body.flatten.length ≤ room ∧ room < (body ++ [last]).flatten.length := by
  have hall : (body ++ [last]).take (body.length + 1) = body ++ [last] :=
    List.take_of_length_le (by simp)
  rw [CrossesAt, hall, List.take_left']
  · simp
  · rfl

end Delivery

/-! ## Blocks of a buffer -/

namespace Buffer

variable {size k : Nat} {held : Array UInt8} {pieces : List Bytes}

theorem size_append (held : Array UInt8) (piece : Bytes) :
    (held ++ piece).size = held.size + piece.length := by
  rw [← Array.length_toList, Array.toList_appendList, List.length_append, Array.length_toList]

/-- A piece that is smaller than the buffer is held, with what was held before it if both fit. -/
theorem blocks_cons_of_small {piece : Bytes} (rest : List Bytes) (h : piece.length < size) :
    blocks size held (piece :: rest) =
      if held.size + piece.length ≤ size then blocks size (held ++ piece) rest
      else
        let r := blocks size piece.toArray rest
        (held.toList :: r.1, r.2) := by
  rw [blocks, if_pos h, if_pos h]

/-- A block is handed over only when the next piece does not fit, so with pieces of at most `k`
bytes it lacks less than `k` bytes of the buffer's size. What is held at the end fits too. -/
theorem full_of_mem_blocks (hk : k < size) (hheld : held.size ≤ size)
    (hpieces : ∀ p ∈ pieces, p.length ≤ k) :
    (∀ b ∈ (blocks size held pieces).1, size < b.length + k ∧ b.length ≤ size) ∧
      (blocks size held pieces).2.size ≤ size := by
  induction pieces generalizing held with
  | nil => simpa [blocks] using hheld
  | cons piece rest ih =>
    obtain ⟨hpiece, hrest⟩ := List.forall_mem_cons.mp hpieces
    have hsmall : piece.length < size := Nat.lt_of_le_of_lt hpiece hk
    rw [blocks_cons_of_small rest hsmall]
    split
    · rename_i hfits
      exact ih (by rwa [size_append]) hrest
    · rename_i hfull
      obtain ⟨hblocks, hlast⟩ := @ih piece.toArray (by simpa using Nat.le_of_lt hsmall) hrest
      refine ⟨List.forall_mem_cons.mpr ⟨?_, hblocks⟩, hlast⟩
      rw [Array.length_toList]
      omega

/-- Nothing is handed over of what the buffer can hold. -/
theorem blocks_eq_nil_iff (hk : k < size) (hheld : held.size ≤ size)
    (hpieces : ∀ p ∈ pieces, p.length ≤ k) :
    (blocks size held pieces).1 = [] ↔ held.size + pieces.flatten.length ≤ size := by
  induction pieces generalizing held with
  | nil => simpa [blocks] using hheld
  | cons piece rest ih =>
    obtain ⟨hpiece, hrest⟩ := List.forall_mem_cons.mp hpieces
    have hsmall : piece.length < size := Nat.lt_of_le_of_lt hpiece hk
    rw [blocks_cons_of_small rest hsmall, List.flatten_cons, List.length_append]
    split
    · rename_i hfits
      rw [ih (by rwa [size_append]) hrest, size_append]
      omega
    · simp only [reduceCtorEq, false_iff]
      omega

end Buffer

namespace Delivery

variable {size k : Nat} {d : Delivery}

theorem body_buffered_eq_nil_iff (hk : k < size) (hbody : ∀ p ∈ d.body, p.length ≤ k) :
    (d.buffered size).body = [] ↔ d.body.flatten.length ≤ size := by
  have hblocks := @Buffer.blocks_eq_nil_iff size k #[] d.body hk (Nat.zero_le _) hbody
  rwa [Array.size_empty, Nat.zero_add] at hblocks

/-- Through a buffer something is handed over at work only of a body that does not fit into it. -/
theorem body_buffered_pos_iff (hk : k < size) (hbody : ∀ p ∈ d.body, p.length ≤ k) :
    0 < (d.buffered size).body.flatten.length ↔ size < d.body.flatten.length := by
  have hnil := body_buffered_eq_nil_iff hk hbody
  obtain ⟨hfull, -⟩ := @Buffer.full_of_mem_blocks size k #[] d.body hk (Nat.zero_le _) hbody
  cases hblocks : (d.buffered size).body with
  | nil =>
    have hfits := hnil.mp hblocks
    simpa using hfits
  | cons b rest =>
    have hover : ¬ d.body.flatten.length ≤ size := fun hfits => by simp [hnil.mpr hfits] at hblocks
    have hb := hfull b (by
      show b ∈ (d.buffered size).body
      rw [hblocks]
      exact List.mem_cons_self)
    rw [List.flatten_cons, List.length_append]
    omega

end Delivery
end MismatchLog
