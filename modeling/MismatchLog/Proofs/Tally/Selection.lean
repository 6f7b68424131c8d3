import MismatchLog.Proofs.Tally.History

/-!
# Some of the keys

* `entriesOf_select`: the entries under some keys are those of the records under these keys alone;
* `entriesOf_of_nodup`: records under distinct keys are each an entry of their own, and
  `nodup_of_length_entriesOf` says that no other records are.
-/

namespace MismatchLog.Tally

theorem entriesOf_of_nodup {h : History} (hn : (h.map Prod.fst).Nodup) :
    entriesOf h = h.map fun r => ⟨1, r.2, r.1⟩ := by
  induction h using List.reverseRecOn with
  | nil => rfl
  | append_singleton h r ih =>
    obtain ⟨k, line⟩ := r
    rw [List.map_append, List.map_singleton, List.nodup_append] at hn
    obtain ⟨hold, -, hdisjoint⟩ := hn
    have hk : k ∉ keysOf h := by
      rw [mem_keysOf]
      exact fun hmem => hdisjoint k hmem k List.mem_cons_self rfl
    rw [entriesOf_concat_new hk, ih hold, List.map_append, List.map_singleton]

theorem nodup_of_length_entriesOf {h : History} (hlength : (entriesOf h).length = h.length) :
    (h.map Prod.fst).Nodup := by
  have hdedup : (h.map Prod.fst).dedup.length = (h.map Prod.fst).length := by
    rw [← (keysOf_perm_dedup h).length_eq, List.length_map, ← hlength, entriesOf, List.length_map]
  exact List.dedup_eq_self.mp ((List.dedup_sublist _).eq_of_length hdedup)

section
variable (p : Key → Bool)

/-- The records under some keys. -/
def select (h : History) : History := h.filter fun r => p r.1

theorem select_concat (h : History) (k : Key) (line : Text) :
    select p (h ++ [(k, line)]) = select p h ++ if p k then [(k, line)] else [] := by
  simp [select, List.filter_append, List.filter_cons]

theorem keysOf_select (h : History) : keysOf (select p h) = (keysOf h).filter p := by
  induction h using List.reverseRecOn with
  | nil => rfl
  | append_singleton h r ih =>
    obtain ⟨k, line⟩ := r
    rw [select_concat, keysOf_concat]
    by_cases hp : p k = true
    · rw [if_pos hp, keysOf_concat, ih]
      by_cases hk : k ∈ keysOf h
      · rw [if_pos hk, if_pos (List.mem_filter.mpr ⟨hk, hp⟩)]
      · rw [if_neg hk, if_neg fun hmem => hk (List.mem_filter.mp hmem).1, List.filter_append,
          List.filter_cons_of_pos hp, List.filter_nil]
    · rw [if_neg hp, List.append_nil, ih]
      split
      · rfl
      · rw [List.filter_append, List.filter_cons_of_neg hp, List.filter_nil, List.append_nil]

theorem map_fst_select (h : History) : (select p h).map Prod.fst = (h.map Prod.fst).filter p := by
  rw [List.filter_map]
  rfl

theorem lookup_select {k : Key} (hk : p k = true) (h : History) :
    (select p h).lookup k = h.lookup k := by
  induction h with
  | nil => rfl
  | cons r h ih =>
    simp only [select, List.filter_cons] at ih ⊢
    by_cases hr : p r.1 = true
    · rw [if_pos hr, List.lookup_cons, List.lookup_cons, ih]
    · have hne : (k == r.1) = false := by
        rw [beq_eq_false_iff_ne]
        rintro rfl
        exact hr hk
      rw [if_neg hr, List.lookup_cons, hne, ih]

/-- Other keys' records change nothing about an entry. -/
theorem entryOf_select {k : Key} (hk : p k = true) (h : History) :
    entryOf (select p h) k = entryOf h k := by
  rw [entryOf, entryOf, lookup_select p hk, map_fst_select, List.count_filter hk]

theorem entriesOf_select (h : History) :
    entriesOf (select p h) = (entriesOf h).filter fun e => p e.key := by
  have hfilter : (entriesOf h).filter (fun e => p e.key) =
      ((keysOf h).filter p).map (entryOf h) := by
    rw [entriesOf, List.filter_map]
    rfl
  rw [hfilter, entriesOf, keysOf_select]
  apply List.map_congr_left
  intro k hk
  exact entryOf_select p (List.mem_filter.mp hk).2 h

end

end MismatchLog.Tally
