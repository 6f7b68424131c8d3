import MismatchLog.Proofs.Tally.History
import MismatchLog.Report
import MismatchLog.Scan

/-!
# A tally in use

* `Operation`, `step`, `run`: what can be done with a tally, and doing one thing after the other;
* `step_holds`, `run_holds`: a tally keeps holding its history, to which only records add;
* `Represents`: what that means for index, entries and answers, said by the records alone;
* `Extends`: entries are only added, behind those that are there.

So no sequence of operations brings the entries and the index apart.
-/

namespace MismatchLog.Tally

inductive Operation where
  | record (key : Key) (line : Text)
  /-- Records a line under the key that its text gives, marked or not. -/
  | scanLine (raw : Text)
  | get (key : Key)
  | entries
  | setLinesScanned (n : Nat)
  /-- Writes a report to a sink, which may fail. -/
  | report (format : Format) (counts : Bool) (path : Text) (sink : Sink)

inductive Answer where
  | done
  | entry (e : Option Entry)
  | entries (es : List Entry)
  | report (written : Except ReportError Nat) (taken : Bytes)

def step (t : Tally) : Operation → Tally × Answer
  | .record key line => (t.record key line, .done)
  | .scanLine raw => (Scan.recordLine t raw, .done)
  | .get key => (t, .entry (t.get? key))
  | .entries => (t, .entries t.entries.toList)
  | .setLinesScanned n => ({ t with linesScanned := n }, .done)
  | .report format counts path sink =>
    let outcome := (Report.delivery format counts t).sendTo sink
    (t, .report (Report.result format path t outcome) outcome.taken)

def run (t : Tally) (ops : List Operation) : Tally := ops.foldl (fun t op => (t.step op).1) t

/-- What an operation records. -/
def Operation.record? : Operation → Option (Key × Text)
  | .record key line => some (key, line)
  | .scanLine raw => some (Key.ofLine (Line.chomp raw), Line.chomp raw)
  | _ => none

/-- The number of lines that an operation assigns. -/
def Operation.linesScanned? : Operation → Option Nat
  | .setLinesScanned n => some n
  | _ => none

/-- What operations record, oldest first. -/
def recordsOf (ops : List Operation) : History := ops.filterMap Operation.record?

/-! ## One operation -/

theorem step_of_record?_eq_none {t : Tally} {op : Operation} (h : op.record? = none) :
    (t.step op).1 = { t with linesScanned := op.linesScanned?.getD t.linesScanned } := by
  cases op with
  | record | scanLine => cases h
  | get | entries | setLinesScanned | report => rfl

theorem step_linesScanned (t : Tally) (op : Operation) :
    (t.step op).1.linesScanned = op.linesScanned?.getD t.linesScanned := by
  cases op with
  | record | scanLine => exact record_linesScanned _ _ _
  | get | entries | setLinesScanned | report => rfl

/-- The number of all lines has nothing to do with the history. -/
theorem Holds.of_linesScanned {t : Tally} {h : History} (ht : Holds t h) (n : Nat) :
    Holds { t with linesScanned := n } h :=
  ⟨ht.entries, ht.index, ht.markerLines⟩

theorem step_holds {t : Tally} {h : History} (ht : Holds t h) (op : Operation) :
    Holds (t.step op).1 (h ++ op.record?.toList) := by
  cases op with
  | record key line => exact record_holds ht key line
  | scanLine raw => exact record_holds ht _ _
  | get | entries | setLinesScanned | report =>
    rw [step_of_record?_eq_none rfl]
    simpa [Operation.record?] using ht.of_linesScanned _

/-! ## Many operations -/

theorem recordsOf_cons (op : Operation) (ops : List Operation) :
    recordsOf (op :: ops) = op.record?.toList ++ recordsOf ops := by
  rw [recordsOf, List.filterMap_cons]
  cases op.record? <;> rfl

theorem run_holds {t : Tally} {h : History} (ht : Holds t h) (ops : List Operation) :
    Holds (t.run ops) (h ++ recordsOf ops) := by
  induction ops generalizing t h with
  | nil => simpa [run, recordsOf] using ht
  | cons op ops ih =>
    rw [recordsOf_cons, ← List.append_assoc]
    exact ih (step_holds ht op)

/-! ## What a tally that holds a history answers -/

/-- The index knows exactly the positions of the entries. -/
theorem Holds.index_iff {t : Tally} {h : History} (ht : Holds t h) (k : Key) (p : Nat) :
    t.index[k]? = some p ↔ ∃ e, t.entries[p]? = some e ∧ e.key = k := by
  rw [ht.index, ht.getElem?_entries]
  constructor
  · intro hp
    exact ⟨entryOf h k, by rw [hp]; rfl, rfl⟩
  · rintro ⟨e, he, rfl⟩
    obtain ⟨k, hk, rfl⟩ := Option.map_eq_some_iff.mp he
    exact hk

theorem Holds.get?_of_mem {t : Tally} {h : History} (ht : Holds t h) {k : Key}
    (hk : k ∈ keysOf h) : t.get? k = some (entryOf h k) := by
  obtain ⟨p, hp⟩ := List.getElem?_of_mem hk
  rw [get?, (ht.index k p).mpr hp, Option.bind_some, ht.getElem?_entries, hp]
  rfl

theorem Holds.get?_of_not_mem {t : Tally} {h : History} (ht : Holds t h) {k : Key}
    (hk : k ∉ keysOf h) : t.get? k = none := by
  have hnone : t.index[k]? = none := by
    rw [Option.eq_none_iff_forall_ne_some]
    intro p hp
    exact hk (List.mem_of_getElem? ((ht.index k p).mp hp))
  rw [get?, hnone, Option.bind_none]

/-! ## The order of first records -/

/-- The place of the first record under a key. -/
def firstRecord (h : History) (k : Key) : Nat := (h.map Prod.fst).idxOf k

theorem firstRecord_lt_iff {h : History} {k : Key} :
    firstRecord h k < h.length ↔ k ∈ keysOf h := by
  rw [mem_keysOf, firstRecord, ← List.idxOf_lt_length_iff, List.length_map]

theorem firstRecord_append {h : History} {k : Key} (hk : k ∈ keysOf h) (more : History) :
    firstRecord (h ++ more) k = firstRecord h k := by
  rw [firstRecord, List.map_append, List.idxOf_append_of_mem (mem_keysOf.mp hk), firstRecord]

/-- Keys are listed in the order of their first records. A new record keeps the places of the keys
before it, and a key that it adds comes after all of them. -/
theorem pairwise_firstRecord (h : History) :
    (keysOf h).Pairwise fun a b => firstRecord h a < firstRecord h b := by
  induction h using List.reverseRecOn with
  | nil => exact List.Pairwise.nil
  | append_singleton h r ih =>
    obtain ⟨k, line⟩ := r
    have old : (keysOf h).Pairwise fun a b =>
        firstRecord (h ++ [(k, line)]) a < firstRecord (h ++ [(k, line)]) b := by
      apply ih.imp_of_mem
      intro a b ha hb hlt
      rwa [firstRecord_append ha, firstRecord_append hb]
    rw [keysOf_concat]
    split
    · exact old
    · rename_i hk
      refine List.pairwise_append.mpr ⟨old, List.pairwise_singleton _ _, ?_⟩
      intro a ha b hb
      obtain rfl := List.mem_singleton.mp hb
      have hnew : firstRecord (h ++ [(b, line)]) b = h.length := by
        rw [firstRecord, List.map_append, List.idxOf_append_of_notMem (mt mem_keysOf.mpr hk)]
        simp
      rw [firstRecord_append ha, hnew]
      exact firstRecord_lt_iff.mpr ha

/-! ## The representation -/

/-- A tally says about a history what there is to say, and its index and its entries agree. -/
structure Represents (t : Tally) (h : History) : Prop where
  /-- The index sends a key to the position of its entry, and nothing else anywhere. -/
  index : ∀ (k : Key) (p : Nat),
    t.index[k]? = some p ↔ ∃ e, t.entries[p]? = some e ∧ e.key = k
  inRange : ∀ (k : Key) (p : Nat), t.index[k]? = some p → p < t.entries.size
  distinct : (t.entries.toList.map Entry.key).Nodup
  /-- A key that was recorded is answered with its records' number and the line of the first. -/
  recorded : ∀ k ∈ h.map Prod.fst, ∃ e, (t.step (.get k)).2 = .entry (some e) ∧
    e ∈ t.entries.toList ∧ e.key = k ∧ e.count = (h.map Prod.fst).count k ∧
    h[firstRecord h k]? = some (k, e.line)
  unrecorded : ∀ k ∉ h.map Prod.fst,
    (t.step (.get k)).2 = .entry none ∧ k ∉ t.entries.toList.map Entry.key
  ordered : t.entries.toList.Pairwise fun e f => firstRecord h e.key < firstRecord h f.key
  positive : ∀ e ∈ t.entries.toList, 1 ≤ e.count
  total : (t.entries.toList.map Entry.count).sum = t.markerLines
  marked : t.markerLines = h.length

theorem getElem?_firstRecord {h : History} {k : Key} {line : Text} (hk : h.lookup k = some line) :
    h[firstRecord h k]? = some (k, line) := by
  induction h with
  | nil => cases hk
  | cons r h ih =>
    obtain ⟨k', line'⟩ := r
    by_cases hne : k = k'
    · subst hne
      obtain rfl : line' = line := by simpa using hk
      simp [firstRecord]
    · have hb : (k == k') = false := beq_eq_false_iff_ne.mpr hne
      have hlater : firstRecord ((k', line') :: h) k = firstRecord h k + 1 := by
        rw [firstRecord, List.map_cons, List.idxOf_cons_ne _ (Ne.symm hne), firstRecord]
      rw [List.lookup_cons, hb] at hk
      rw [hlater, List.getElem?_cons_succ]
      exact ih hk

theorem Holds.represents {t : Tally} {h : History} (ht : Holds t h) : Represents t h := by
  have hkeys : t.entries.toList.map Entry.key = keysOf h := by
    rw [ht.entries, map_key_entriesOf]
  refine ⟨ht.index_iff, ?_, ?_, ?_, ?_, ?_, ?_, sum_counts ht, ht.markerLines⟩
  · intro k p hp
    obtain ⟨e, he, -⟩ := (ht.index_iff k p).mp hp
    obtain ⟨hlt, -⟩ := Array.getElem?_eq_some_iff.mp he
    exact hlt
  · rw [hkeys]
    exact nodup_keysOf h
  · intro k hk
    have hmem := mem_keysOf.mpr hk
    obtain ⟨line, hline⟩ := Option.isSome_iff_exists.mp (isSome_lookup.mpr hmem)
    refine ⟨entryOf h k, by rw [step, ht.get?_of_mem hmem], ?_, rfl, rfl, ?_⟩
    · rw [ht.entries]
      exact List.mem_map_of_mem hmem
    · rw [getElem?_firstRecord hline, entryOf, hline]
      rfl
  · intro k hk
    have hmem := mt mem_keysOf.mp hk
    refine ⟨by rw [step, ht.get?_of_not_mem hmem], ?_⟩
    rwa [hkeys]
  · rw [ht.entries, entriesOf, List.pairwise_map]
    exact pairwise_firstRecord h
  · intro e he
    rw [ht.entries] at he
    obtain ⟨k, hk, rfl⟩ := List.mem_map.mp he
    exact List.one_le_count_iff.mpr (mem_keysOf.mp hk)

/-! ## Entries stay where they are -/

/-- Every entry is still in its position, with its key and its line, and counts no less. -/
def Extends (t t' : Tally) : Prop :=
  ∀ (p : Nat) (e : Entry), t.entries[p]? = some e →
    ∃ n, e.count ≤ n ∧ t'.entries[p]? = some { e with count := n }

theorem Extends.of_entries_eq {t t' : Tally} (h : t'.entries = t.entries) : Extends t t' := by
  intro p e he
  exact ⟨e.count, Nat.le_refl _, by rw [h, he]⟩

theorem Extends.trans {t t' t'' : Tally} (h : Extends t t') (h' : Extends t' t'') :
    Extends t t'' := by
  intro p e he
  obtain ⟨n, hn, he'⟩ := h p e he
  obtain ⟨m, hm, he''⟩ := h' p _ he'
  exact ⟨m, Nat.le_trans hn hm, he''⟩

theorem record_extends (t : Tally) (key : Key) (line : Text) : Extends t (t.record key line) := by
  intro p e he
  unfold record
  split
  · rename_i pos _
    by_cases hp : pos = p
    · exact ⟨e.count + 1, Nat.le_succ _, by simp [Array.getElem?_modify, hp, he, bump]⟩
    · exact ⟨e.count, Nat.le_refl _, by simp [Array.getElem?_modify, hp, he]⟩
  · obtain ⟨hlt, -⟩ := Array.getElem?_eq_some_iff.mp he
    exact ⟨e.count, Nat.le_refl _, by simp [Array.getElem?_push, Nat.ne_of_lt hlt, he]⟩

theorem step_extends (t : Tally) (op : Operation) : Extends t (t.step op).1 := by
  cases op with
  | record key line => exact record_extends t key line
  | scanLine raw => exact record_extends t _ _
  | get => exact .of_entries_eq rfl
  | entries => exact .of_entries_eq rfl
  | setLinesScanned => exact .of_entries_eq rfl
  | report => exact .of_entries_eq rfl

theorem run_extends (t : Tally) (ops : List Operation) : Extends t (t.run ops) := by
  induction ops generalizing t with
  | nil => exact .of_entries_eq rfl
  | cons op ops ih => exact (step_extends t op).trans (ih _)

theorem run_append (t : Tally) (ops more : List Operation) :
    t.run (ops ++ more) = (t.run ops).run more :=
  List.foldl_append

/-- **Index and entries never part.** Whatever is done with a new tally, in whatever order, it
represents what was recorded. No entry is ever moved or taken away, and an operation that records
nothing changes nothing, the number of scanned lines apart, which only its assignment changes. -/
theorem operations_keep_representation (ops : List Operation) :
    Represents (empty.run ops) (recordsOf ops) ∧
    (∀ more, Extends (empty.run ops) (empty.run (ops ++ more))) ∧
    (∀ op, op.record? = none → ((empty.run ops).step op).1 =
      { empty.run ops with
        linesScanned := op.linesScanned?.getD (empty.run ops).linesScanned }) ∧
    ∀ op, ((empty.run ops).step op).1.linesScanned =
      op.linesScanned?.getD (empty.run ops).linesScanned := by
  have held : Holds (empty.run ops) (recordsOf ops) := run_holds empty_holds ops
  refine ⟨held.represents, ?_, fun _ => step_of_record?_eq_none, step_linesScanned _⟩
  intro more
  rw [run_append]
  exact run_extends _ more

end MismatchLog.Tally
