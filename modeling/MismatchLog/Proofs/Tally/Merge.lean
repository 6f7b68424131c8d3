import MismatchLog.Proofs.Tally.Selection

/-!
# Two histories, one after the other

* `merge`: the entries of one tally with the counts of another added, and behind them the entries of
  the other under new keys;
* `keysOf_append`, `entryOf_append`: what a second history adds to the keys and to an entry;
* `entriesOf_append`: so the entries of both histories are the merged entries of each.
-/

namespace MismatchLog.Tally

/-- The number of records under a key, as entries count it. -/
def countIn (es : List Entry) (k : Key) : Nat :=
  ((es.find? fun e => e.key = k).map Entry.count).getD 0

def merge (first second : List Entry) : List Entry :=
  first.map (fun e => { e with count := e.count + countIn second e.key }) ++
    second.filter fun f => f.key ∉ first.map Entry.key

section
variable (h h' : History)

theorem countIn_entriesOf (k : Key) : countIn (entriesOf h) k = (h.map Prod.fst).count k := by
  have hfind : (entriesOf h).find? (fun e => e.key = k) =
      ((keysOf h).find? fun k' => k' = k).map (entryOf h) := by
    rw [entriesOf, List.find?_map]
    rfl
  rw [countIn, hfind]
  cases hk : (keysOf h).find? fun k' => k' = k with
  | none =>
    have hnew : k ∉ h.map Prod.fst := by
      intro hmem
      simpa using List.find?_eq_none.mp hk k (mem_keysOf.mpr hmem)
    exact (List.count_eq_zero.mpr hnew).symm
  | some k' =>
    obtain rfl : k' = k := by simpa using List.find?_some hk
    rfl

theorem keysOf_append :
    keysOf (h ++ h') = keysOf h ++ (keysOf h').filter fun k => k ∉ keysOf h := by
  rw [← keysOf_select, keysOf, List.map_append, List.eraseDups_append, ← keysOf]
  congr 1
  rw [keysOf, map_fst_select, List.removeAll]
  congr 1
  apply List.filter_congr
  intro k _
  simp [mem_keysOf]

/-- The first history's line stands for a key that both have. -/
theorem entryOf_append {k : Key} (hk : k ∈ keysOf h) :
    entryOf (h ++ h') k =
      { entryOf h k with count := (entryOf h k).count + (h'.map Prod.fst).count k } := by
  obtain ⟨line, hline⟩ := Option.isSome_iff_exists.mp (isSome_lookup.mpr hk)
  simp [entryOf, List.lookup_append, hline]

theorem entryOf_append_new {k : Key} (hk : k ∉ keysOf h) :
    entryOf (h ++ h') k = entryOf h' k := by
  have hcount : (h.map Prod.fst).count k = 0 := List.count_eq_zero.mpr (mt mem_keysOf.mpr hk)
  have hlookup : h.lookup k = none := Option.not_isSome_iff_eq_none.mp (mt isSome_lookup.mp hk)
  simp [entryOf, List.lookup_append, hlookup, hcount]

theorem entriesOf_append : entriesOf (h ++ h') = merge (entriesOf h) (entriesOf h') := by
  rw [entriesOf, keysOf_append, List.map_append, merge, map_key_entriesOf]
  congr 1
  · simp only [countIn_entriesOf]
    rw [entriesOf, List.map_map]
    apply List.map_congr_left
    intro k hk
    exact entryOf_append h h' hk
  · have hfilter : (entriesOf h').filter (fun f => f.key ∉ keysOf h) =
        ((keysOf h').filter fun k => k ∉ keysOf h).map (entryOf h') := by
      rw [entriesOf, List.filter_map]
      rfl
    rw [hfilter]
    apply List.map_congr_left
    intro k hk
    exact entryOf_append_new h h' (by simpa using (List.mem_filter.mp hk).2)

end

end MismatchLog.Tally
