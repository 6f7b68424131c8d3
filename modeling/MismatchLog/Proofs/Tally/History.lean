import MismatchLog.Tally
import Mathlib.Algebra.BigOperators.Group.List.Lemmas
import Mathlib.Algebra.GroupWithZero.Nat
import Mathlib.Data.List.Induction

/-!
# A tally as a function of its history

A history lists what was recorded, oldest first: a key and a line each time.

* `entriesOf`: the entries a history asks for, one per distinct key in the order of first
  occurrence, with the number of its records and the line of the first;
* `Holds`: a tally holds a history when its entries are these, its index sends every key to the
  position of its entry and nothing else anywhere, and its counter of marked lines is the length of
  the history;
* `record_holds`: a record extends the history by itself;
* `sum_counts_entriesOf`, `sum_counts`: the counts of the entries add up to the number of records,
  which is the counter.
-/

namespace MismatchLog.Tally

/-- What was recorded, oldest first. -/
abbrev History := List (Key × Text)

/-- The distinct keys of a history in the order in which they were first recorded. -/
def keysOf (h : History) : List Key := (h.map Prod.fst).eraseDups

/-- The entry that a history asks for under a key. -/
def entryOf (h : History) (k : Key) : Entry :=
  ⟨(h.map Prod.fst).count k, (h.lookup k).getD [], k⟩

def entriesOf (h : History) : List Entry := (keysOf h).map (entryOf h)

structure Holds (t : Tally) (h : History) : Prop where
  entries : t.entries.toList = entriesOf h
  index : ∀ (k : Key) (p : Nat), t.index[k]? = some p ↔ (keysOf h)[p]? = some k
  markerLines : t.markerLines = h.length

theorem map_key_entriesOf (h : History) : (entriesOf h).map Entry.key = keysOf h := by
  simp [entriesOf, entryOf, Function.comp_def]

theorem mem_keysOf {h : History} {k : Key} : k ∈ keysOf h ↔ k ∈ h.map Prod.fst :=
  List.mem_eraseDups

theorem keysOf_concat (h : History) (k : Key) (line : Text) :
    keysOf (h ++ [(k, line)]) = if k ∈ keysOf h then keysOf h else keysOf h ++ [k] := by
  simp only [keysOf, List.map_append, List.map_cons, List.map_nil, List.eraseDups_append,
    List.mem_eraseDups]
  split
  · rename_i hk
    simp [List.removeAll, hk]
  · rename_i hk
    simp [List.removeAll, hk, List.eraseDups_cons]

theorem nodup_keysOf (h : History) : (keysOf h).Nodup := by
  induction h using List.reverseRecOn with
  | nil => exact List.nodup_nil
  | append_singleton h r ih =>
    obtain ⟨k, line⟩ := r
    rw [keysOf_concat]
    split
    · exact ih
    · rename_i hk
      exact List.Nodup.append ih (List.nodup_singleton k) (List.disjoint_singleton.mpr hk)

theorem position_unique {h : History} {k : Key} {p q : Nat} (hp : (keysOf h)[p]? = some k)
    (hq : (keysOf h)[q]? = some k) : p = q := by
  obtain ⟨hlt, _⟩ := List.getElem?_eq_some_iff.mp hp
  exact (List.getElem?_inj hlt (nodup_keysOf h)).mp (hp.trans hq.symm)

/-- Another key's record changes nothing about an entry. -/
theorem entryOf_concat_ne {k k' : Key} (hne : k' ≠ k) (h : History) (line : Text) :
    entryOf (h ++ [(k, line)]) k' = entryOf h k' := by
  have hb : (k' == k) = false := beq_eq_false_iff_ne.mpr hne
  simp [entryOf, List.count_append, List.lookup_append, List.lookup_cons, hb, hne.symm]

theorem isSome_lookup {h : History} {k : Key} : (h.lookup k).isSome ↔ k ∈ keysOf h := by
  rw [List.lookup_isSome_iff, mem_keysOf, List.mem_map]
  constructor
  · rintro ⟨r, hr, hk⟩
    exact ⟨r, hr, (eq_of_beq hk).symm⟩
  · rintro ⟨r, hr, rfl⟩
    exact ⟨r, hr, beq_self_eq_true _⟩

/-- A record under a key that is there already only adds to its count. -/
theorem entryOf_concat_known {h : History} {k : Key} (hk : k ∈ keysOf h) (line : Text) :
    entryOf (h ++ [(k, line)]) k = bump (entryOf h k) := by
  obtain ⟨first, hfirst⟩ := Option.isSome_iff_exists.mp (isSome_lookup.mpr hk)
  simp [entryOf, bump, List.count_append, List.lookup_append, hfirst]

theorem entryOf_concat_new {h : History} {k : Key} (hk : k ∉ keysOf h) (line : Text) :
    entryOf (h ++ [(k, line)]) k = ⟨1, line, k⟩ := by
  have hcount : (h.map Prod.fst).count k = 0 := List.count_eq_zero.mpr (mt mem_keysOf.mpr hk)
  have hlookup : h.lookup k = none :=
    Option.not_isSome_iff_eq_none.mp (mt isSome_lookup.mp hk)
  simp [entryOf, List.count_append, List.lookup_append, hcount, hlookup]

theorem entriesOf_concat_known {h : History} {k : Key} {p : Nat} (hp : (keysOf h)[p]? = some k)
    (line : Text) : entriesOf (h ++ [(k, line)]) = (entriesOf h).modify p bump := by
  have hk : k ∈ keysOf h := List.mem_of_getElem? hp
  rw [entriesOf, keysOf_concat, if_pos hk]
  apply List.ext_getElem?
  intro q
  rw [List.getElem?_modify, entriesOf, List.getElem?_map, List.getElem?_map]
  cases hq : (keysOf h)[q]? with
  | none => rfl
  | some k' =>
    by_cases hpq : p = q
    · subst hpq
      obtain rfl : k = k' := Option.some.inj (hp.symm.trans hq)
      simp [entryOf_concat_known hk]
    · have hne : k' ≠ k := by
        rintro rfl
        exact hpq (position_unique hp hq)
      simp [hpq, entryOf_concat_ne hne]

theorem entriesOf_concat_new {h : History} {k : Key} (hk : k ∉ keysOf h) (line : Text) :
    entriesOf (h ++ [(k, line)]) = entriesOf h ++ [⟨1, line, k⟩] := by
  rw [entriesOf, keysOf_concat, if_neg hk, List.map_append, List.map_singleton,
    entryOf_concat_new hk]
  congr 1
  apply List.map_congr_left
  intro k' hk'
  have hne : k' ≠ k := by
    rintro rfl
    exact hk hk'
  exact entryOf_concat_ne hne h line

theorem empty_holds : Holds empty [] := by
  refine ⟨rfl, ?_, rfl⟩
  intro k p
  simp [empty, keysOf]

theorem Holds.size {t : Tally} {h : History} (ht : Holds t h) :
    t.entries.size = (keysOf h).length := by
  rw [← Array.length_toList, ht.entries, entriesOf, List.length_map]

theorem Holds.getElem?_entries {t : Tally} {h : History} (ht : Holds t h) (p : Nat) :
    t.entries[p]? = (keysOf h)[p]?.map (entryOf h) := by
  rw [← Array.getElem?_toList, ht.entries, entriesOf, List.getElem?_map]

theorem record_known {t : Tally} {h : History} (ht : Holds t h) {k : Key} {p : Nat}
    (hp : t.index[k]? = some p) (line : Text) : Holds (t.record k line) (h ++ [(k, line)]) := by
  have hk := (ht.index k p).mp hp
  have hkeys : keysOf (h ++ [(k, line)]) = keysOf h := by
    rw [keysOf_concat, if_pos (List.mem_of_getElem? hk)]
  simp only [record, hp]
  refine ⟨?_, ?_, ?_⟩
  · rw [Array.toList_modify, ht.entries, entriesOf_concat_known hk]
  · intro k' q
    rw [hkeys]
    exact ht.index k' q
  · simp [ht.markerLines]

theorem getElem?_concat_eq_some_iff {keys : List Key} {k k' : Key} {q : Nat} :
    (keys ++ [k])[q]? = some k' ↔ keys[q]? = some k' ∨ (q = keys.length ∧ k = k') := by
  rcases Nat.lt_trichotomy q keys.length with hlt | rfl | hgt
  · simp [List.getElem?_append_left hlt, Nat.ne_of_lt hlt]
  · simp
  · have hle : keys.length + 1 ≤ q := hgt
    rw [List.getElem?_eq_none (by simpa using hle), List.getElem?_eq_none (Nat.le_of_lt hgt)]
    simp [Nat.ne_of_gt hgt]

theorem record_new {t : Tally} {h : History} (ht : Holds t h) {k : Key}
    (hnone : t.index[k]? = none) (line : Text) : Holds (t.record k line) (h ++ [(k, line)]) := by
  have hk : k ∉ keysOf h := by
    intro hmem
    obtain ⟨p, hp⟩ := List.getElem?_of_mem hmem
    simp [(ht.index k p).mpr hp] at hnone
  have hkeys : keysOf (h ++ [(k, line)]) = keysOf h ++ [k] := by
    rw [keysOf_concat, if_neg hk]
  simp only [record, hnone]
  refine ⟨?_, ?_, ?_⟩
  · rw [Array.toList_push, ht.entries, entriesOf_concat_new hk]
  · intro k' q
    rw [hkeys, Std.HashMap.getElem?_insert, getElem?_concat_eq_some_iff, ← ht.index k' q, ht.size]
    by_cases hkk : k = k'
    · subst hkk
      simp [hnone, eq_comm]
    · simp [hkk]
  · simp [ht.markerLines]

/-- One record extends the history by itself. -/
theorem record_holds {t : Tally} {h : History} (ht : Holds t h) (k : Key) (line : Text) :
    Holds (t.record k line) (h ++ [(k, line)]) := by
  cases hp : t.index[k]? with
  | some p => exact record_known ht hp line
  | none => exact record_new ht hp line

theorem record_linesScanned (t : Tally) (k : Key) (line : Text) :
    (t.record k line).linesScanned = t.linesScanned := by
  unfold record
  split <;> rfl

theorem keysOf_perm_dedup (h : History) : (keysOf h).Perm (h.map Prod.fst).dedup := by
  rw [List.perm_ext_iff_of_nodup (nodup_keysOf h) (List.nodup_dedup _)]
  intro k
  rw [mem_keysOf, List.mem_dedup]

/-- Every record is counted in exactly one entry. -/
theorem sum_counts_entriesOf (h : History) : ((entriesOf h).map Entry.count).sum = h.length := by
  rw [entriesOf, List.map_map]
  calc ((keysOf h).map (Entry.count ∘ entryOf h)).sum
      = ((h.map Prod.fst).dedup.map fun k => (h.map Prod.fst).count k).sum :=
        ((keysOf_perm_dedup h).map _).sum_eq
    _ = (h.map Prod.fst).length := List.sum_map_count_dedup_eq_length _
    _ = h.length := List.length_map _

theorem sum_counts {t : Tally} {h : History} (ht : Holds t h) :
    (t.entries.toList.map Entry.count).sum = t.markerLines := by
  rw [ht.entries, ht.markerLines, sum_counts_entriesOf]

end MismatchLog.Tally
