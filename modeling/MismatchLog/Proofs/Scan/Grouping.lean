import MismatchLog.Proofs.Tally.History
import MismatchLog.Scan

/-!
# A scan groups the marked lines by key

* `ofTexts_holds`: scanning a list of lines is recording its marked lines, in order;
* `Groups`: what it means that entries group the marked lines of a list, said by places in the list
  and without a scan: one entry per key, ordered by first place, with count and first line;
* `CountedAt`: scanning the line at a place raises the count of the entry at a position, and
  `countedAt_iff` says which entry that is.

So the tally of every list of lines, and of every log, is this grouping, and two lines share an
entry exactly when they report the same mismatch.
-/

namespace MismatchLog.Scan

open Tally

/-- What the scan of a line records. -/
def recordOf? (raw : Text) : Option (Key × Text) :=
  if Line.isMarked (Line.chomp raw) then some (Key.ofLine (Line.chomp raw), Line.chomp raw)
  else none

/-- The key that a line is counted under. An unmarked line has none. -/
def keyOf? (raw : Text) : Option Key := (recordOf? raw).map Prod.fst

def historyOf (lines : List Text) : History := lines.filterMap recordOf?

theorem keyOf?_eq_some_iff {raw : Text} {k : Key} :
    keyOf? raw = some k ↔ Line.isMarked (Line.chomp raw) = true ∧ Key.ofLine (Line.chomp raw) = k := by
  by_cases hm : Line.isMarked (Line.chomp raw) = true <;> simp [keyOf?, recordOf?, hm]

theorem historyOf_append (lines more : List Text) :
    historyOf (lines ++ more) = historyOf lines ++ historyOf more :=
  List.filterMap_append

theorem keys_historyOf (lines : List Text) :
    (historyOf lines).map Prod.fst = lines.filterMap keyOf? :=
  List.map_filterMap

theorem scanLine_holds {t : Tally} {h : History} (ht : Holds t h) (raw : Text) :
    Holds (scanLine t raw) (h ++ historyOf [raw]) := by
  have counted : Holds { t with linesScanned := t.linesScanned + 1 } h :=
    ⟨ht.entries, ht.index, ht.markerLines⟩
  by_cases hm : Line.isMarked (Line.chomp raw) = true
  · simpa [scanLine, recordLine, historyOf, recordOf?, hm] using record_holds counted _ _
  · simpa [scanLine, historyOf, recordOf?, hm] using counted

theorem scanLine_linesScanned (t : Tally) (raw : Text) :
    (scanLine t raw).linesScanned = t.linesScanned + 1 := by
  unfold scanLine
  split
  · exact record_linesScanned _ _ _
  · rfl

theorem ofTexts_concat (lines : List Text) (raw : Text) :
    ofTexts (lines ++ [raw]) = scanLine (ofTexts lines) raw := by
  simp [ofTexts]

/-- Scanning lines is recording the marked ones, in order. -/
theorem ofTexts_holds (lines : List Text) : Holds (ofTexts lines) (historyOf lines) := by
  induction lines using List.reverseRecOn with
  | nil => exact empty_holds
  | append_singleton lines raw ih =>
    rw [ofTexts_concat, historyOf_append]
    exact scanLine_holds ih raw

theorem linesScanned_ofTexts (lines : List Text) : (ofTexts lines).linesScanned = lines.length := by
  induction lines using List.reverseRecOn with
  | nil => rfl
  | append_singleton lines raw ih =>
    rw [ofTexts_concat, scanLine_linesScanned, ih, List.length_append, List.length_singleton]

theorem length_historyOf (lines : List Text) :
    (historyOf lines).length = lines.countP fun raw => Line.isMarked (Line.chomp raw) := by
  rw [historyOf, List.length_filterMap_eq_countP]
  congr 1
  funext raw
  by_cases hm : Line.isMarked (Line.chomp raw) = true <;> simp [recordOf?, hm]

/-- A scan that meets no marked line has no entries. -/
theorem entries_eq_empty {lines : List Text} (h : (ofTexts lines).markerLines = 0) :
    (ofTexts lines).entries = #[] := by
  have held := ofTexts_holds lines
  have hnone : historyOf lines = [] := List.eq_nil_of_length_eq_zero (held.markerLines ▸ h)
  have hentries := held.entries
  rw [hnone] at hentries
  exact Array.toList_eq_nil_iff.mp hentries

/-! ## Places in the list -/

/-- The place of the first line with a key. -/
def firstPlace (lines : List Text) (k : Key) : Nat := lines.findIdx fun raw => keyOf? raw == some k

/-- Entries group the marked lines of a list by their keys. -/
structure Groups (lines : List Text) (entries : List Entry) : Prop where
  /-- No key has two entries. -/
  distinct : (entries.map Entry.key).Nodup
  /-- The keys are those of the marked lines. -/
  keys : ∀ k, k ∈ entries.map Entry.key ↔ ∃ raw ∈ lines, keyOf? raw = some k
  /-- Entries stand in the order in which their keys are first seen. -/
  ordered : entries.Pairwise fun e f => firstPlace lines e.key < firstPlace lines f.key
  count : ∀ e ∈ entries, e.count = lines.countP fun raw => keyOf? raw == some e.key
  line : ∀ e ∈ entries, (lines[firstPlace lines e.key]?).map Line.chomp = some e.line

theorem mem_keysOf_historyOf {lines : List Text} {k : Key} :
    k ∈ keysOf (historyOf lines) ↔ ∃ raw ∈ lines, keyOf? raw = some k := by
  rw [mem_keysOf, keys_historyOf, List.mem_filterMap]

theorem firstPlace_lt_iff {lines : List Text} {k : Key} :
    firstPlace lines k < lines.length ↔ k ∈ keysOf (historyOf lines) := by
  rw [firstPlace, List.findIdx_lt_length, mem_keysOf_historyOf]
  simp only [beq_iff_eq]

theorem firstPlace_append {lines : List Text} {k : Key} (hk : k ∈ keysOf (historyOf lines))
    (more : List Text) : firstPlace (lines ++ more) k = firstPlace lines k := by
  have hlt := firstPlace_lt_iff.mpr hk
  unfold firstPlace at hlt ⊢
  rw [List.findIdx_append, if_pos hlt]

theorem length_le_firstPlace {lines : List Text} {k : Key} (hk : k ∉ keysOf (historyOf lines))
    (more : List Text) : lines.length ≤ firstPlace (lines ++ more) k := by
  have hlt := mt firstPlace_lt_iff.mp hk
  unfold firstPlace at hlt ⊢
  rw [List.findIdx_append, if_neg hlt]
  omega

/-- Keys are listed in the order of their first places. A new line keeps the places of the keys
before it and can only add a key whose first place is its own. -/
theorem pairwise_firstPlace (lines : List Text) :
    (keysOf (historyOf lines)).Pairwise fun a b => firstPlace lines a < firstPlace lines b := by
  induction lines using List.reverseRecOn with
  | nil => exact List.Pairwise.nil
  | append_singleton lines raw ih =>
    have old : (keysOf (historyOf lines)).Pairwise fun a b =>
        firstPlace (lines ++ [raw]) a < firstPlace (lines ++ [raw]) b := by
      refine ih.imp_of_mem ?_
      intro a b ha hb hab
      rw [firstPlace_append ha, firstPlace_append hb]
      exact hab
    rw [historyOf_append]
    cases hr : recordOf? raw with
    | none => simpa [historyOf, hr] using old
    | some r =>
      obtain ⟨k, line⟩ := r
      simp only [historyOf, List.filterMap_cons_some hr, List.filterMap_nil]
      rw [keysOf_concat]
      split
      · exact old
      · rename_i hk
        refine List.pairwise_append.mpr ⟨old, List.pairwise_singleton _ _, ?_⟩
        intro a ha b hb
        obtain rfl := List.mem_singleton.mp hb
        rw [firstPlace_append ha]
        exact Nat.lt_of_lt_of_le (firstPlace_lt_iff.mpr ha) (length_le_firstPlace hk _)

theorem count_historyOf (lines : List Text) (k : Key) :
    ((historyOf lines).map Prod.fst).count k = lines.countP fun raw => keyOf? raw == some k := by
  rw [keys_historyOf, List.count_filterMap]

theorem lookup_historyOf (lines : List Text) (k : Key) :
    (historyOf lines).lookup k = (lines[firstPlace lines k]?).map Line.chomp := by
  induction lines with
  | nil => rfl
  | cons raw lines ih =>
    by_cases hk : keyOf? raw = some k
    · obtain ⟨hm, rfl⟩ := keyOf?_eq_some_iff.mp hk
      simp [historyOf, recordOf?, hm, firstPlace, List.findIdx_cons, hk]
    · have later : firstPlace (raw :: lines) k = firstPlace lines k + 1 := by
        have hb : (keyOf? raw == some k) = false := beq_eq_false_iff_ne.mpr hk
        simp [firstPlace, List.findIdx_cons, hb]
      rw [later, List.getElem?_cons_succ, ← ih, historyOf, List.filterMap_cons]
      cases hr : recordOf? raw with
      | none => rfl
      | some r =>
        obtain ⟨k', line⟩ := r
        have hb : (k == k') = false := by
          rw [beq_eq_false_iff_ne]
          rintro rfl
          exact hk (by rw [keyOf?, hr]; rfl)
        simp [List.lookup_cons, hb, historyOf]

theorem ofTexts_groups (lines : List Text) : Groups lines (ofTexts lines).entries.toList := by
  rw [(ofTexts_holds lines).entries]
  have hkeys := map_key_entriesOf (historyOf lines)
  refine ⟨?_, ?_, ?_, ?_, ?_⟩
  · rw [hkeys]
    exact nodup_keysOf _
  · intro k
    rw [hkeys, mem_keysOf_historyOf]
  · rw [entriesOf, List.pairwise_map]
    exact pairwise_firstPlace lines
  · intro e he
    obtain ⟨k, hk, rfl⟩ := List.mem_map.mp he
    exact count_historyOf lines k
  · intro e he
    obtain ⟨k, hk, rfl⟩ := List.mem_map.mp he
    obtain ⟨first, hfirst⟩ := Option.isSome_iff_exists.mp (isSome_lookup.mpr hk)
    simp [entryOf, ← lookup_historyOf, hfirst]

/-! ## Which entry a line is counted in -/

/-- The number of lines that the entry at a position stands for. -/
def countAt (t : Tally) (p : Nat) : Nat := ((t.entries[p]?).map Entry.count).getD 0

/-- Scanning the line at place `i` counts it in the entry at position `p`. -/
def CountedAt (lines : List Text) (i p : Nat) : Prop :=
  countAt (ofTexts (lines.take (i + 1))) p = countAt (ofTexts (lines.take i)) p + 1

/-- The keys of a longer history begin with those of a shorter one, so counts at a position can be
read off by the key that ends up there. -/
theorem countAt_of_prefix {t : Tally} {h : History} (ht : Holds t h) (more : History) (p : Nat) :
    countAt t p = ((keysOf (h ++ more))[p]?.map fun k => (h.map Prod.fst).count k).getD 0 := by
  have hentry := ht.getElem?_entries p
  have hkeys : keysOf (h ++ more) =
      keysOf h ++ ((more.map Prod.fst).removeAll (h.map Prod.fst)).eraseDups := by
    rw [keysOf, List.map_append, List.eraseDups_append, keysOf]
  rw [countAt, hentry, hkeys, List.getElem?_append]
  split
  · rename_i hlt
    rw [List.getElem?_eq_getElem hlt]
    rfl
  · rename_i hlt
    rw [List.getElem?_eq_none (Nat.le_of_not_lt hlt)]
    cases hk : ((more.map Prod.fst).removeAll (h.map Prod.fst)).eraseDups[p - (keysOf h).length]? with
    | none => rfl
    | some k =>
      have hmem := List.mem_eraseDups.mp (List.mem_of_getElem? hk)
      have hnew : k ∉ h.map Prod.fst := by
        simpa [List.removeAll] using (List.mem_filter.mp hmem).2
      exact (List.count_eq_zero.mpr hnew).symm

theorem countAt_take (lines : List Text) (i p : Nat) :
    countAt (ofTexts (lines.take i)) p = ((keysOf (historyOf lines))[p]?.map fun k =>
      (lines.take i).countP fun raw => keyOf? raw == some k).getD 0 := by
  have hsplit : historyOf (lines.take i) ++ historyOf (lines.drop i) = historyOf lines := by
    rw [← historyOf_append, List.take_append_drop]
  have hcount := countAt_of_prefix (ofTexts_holds (lines.take i)) (historyOf (lines.drop i)) p
  rw [hsplit] at hcount
  simpa only [count_historyOf] using hcount

/-- A line is counted in the entry of its key, wherever that entry stands, and in no other. -/
theorem countedAt_iff {lines : List Text} {i p : Nat} :
    CountedAt lines i p ↔
      ∃ k, (keysOf (historyOf lines))[p]? = some k ∧ lines[i]?.bind keyOf? = some k := by
  rw [CountedAt, countAt_take, countAt_take, List.take_add_one]
  cases hp : (keysOf (historyOf lines))[p]? with
  | none => simp
  | some k =>
    cases hi : lines[i]? with
    | none => simp
    | some raw => by_cases hk : keyOf? raw = some k <;> simp [hk]

/-- Every key of a line has a position. -/
theorem exists_position {lines : List Text} {i : Nat} {k : Key}
    (hk : lines[i]?.bind keyOf? = some k) : ∃ p : Nat, (keysOf (historyOf lines))[p]? = some k := by
  obtain ⟨raw, hraw, hkey⟩ := Option.bind_eq_some_iff.mp hk
  exact List.getElem?_of_mem (mem_keysOf_historyOf.mpr ⟨raw, List.mem_of_getElem? hraw, hkey⟩)

/-- A line is counted somewhere exactly if it has a key. -/
theorem exists_countedAt_iff {lines : List Text} {i : Nat} :
    (∃ p, CountedAt lines i p) ↔ ∃ k, lines[i]?.bind keyOf? = some k := by
  constructor
  · rintro ⟨p, hp⟩
    obtain ⟨k, -, hk⟩ := countedAt_iff.mp hp
    exact ⟨k, hk⟩
  · rintro ⟨k, hk⟩
    obtain ⟨p, hp⟩ := exists_position hk
    exact ⟨p, countedAt_iff.mpr ⟨k, hp, hk⟩⟩

/-- Two lines without terminators report the same mismatch: the same two values in any letter case,
or no values and the same text. -/
def SameMismatch (a b : Text) : Prop :=
  (∃ dut ref dut' ref', Key.firstPair? a = some (dut, ref) ∧ Key.firstPair? b = some (dut', ref') ∧
    Text.lower dut = Text.lower dut' ∧ Text.lower ref = Text.lower ref') ∨
  (Key.firstPair? a = none ∧ Key.firstPair? b = none ∧ a = b)

theorem ofLine_eq_iff (a b : Text) : Key.ofLine a = Key.ofLine b ↔ SameMismatch a b := by
  unfold Key.ofLine SameMismatch
  cases Key.firstPair? a with
  | none => cases Key.firstPair? b <;> simp [Key.ofLiterals]
  | some p =>
    obtain ⟨dut, ref⟩ := p
    cases Key.firstPair? b with
    | none => simp [Key.ofLiterals]
    | some q =>
      obtain ⟨dut', ref'⟩ := q
      simp [Key.ofLiterals]

theorem countedTogether_iff (lines : List Text) (i j : Fin lines.length) :
    (∃ p, CountedAt lines i p ∧ CountedAt lines j p) ↔
      Line.isMarked (Line.chomp lines[i]) = true ∧ Line.isMarked (Line.chomp lines[j]) = true ∧
        SameMismatch (Line.chomp lines[i]) (Line.chomp lines[j]) := by
  have key (n : Fin lines.length) (k : Key) : lines[n.1]?.bind keyOf? = some k ↔
      Line.isMarked (Line.chomp lines[n]) = true ∧ Key.ofLine (Line.chomp lines[n]) = k := by
    rw [List.getElem?_eq_getElem n.2, Option.bind_some, keyOf?_eq_some_iff]
    rfl
  simp only [countedAt_iff, ← ofLine_eq_iff]
  constructor
  · rintro ⟨p, ⟨k, hp, hi⟩, k', hp', hj⟩
    obtain rfl : k = k' := Option.some.inj (hp.symm.trans hp')
    obtain ⟨hmi, hki⟩ := (key i k).mp hi
    obtain ⟨hmj, hkj⟩ := (key j k).mp hj
    exact ⟨hmi, hmj, hki.trans hkj.symm⟩
  · rintro ⟨hmi, hmj, heq⟩
    have hi := (key i _).mpr ⟨hmi, rfl⟩
    have hj := (key j _).mpr ⟨hmj, heq.symm⟩
    obtain ⟨p, hp⟩ := exists_position hi
    exact ⟨p, ⟨_, hp, hi⟩, _, hp, hj⟩

/-- All that a tally of lines has to say, in terms of the lines alone. -/
structure TallyOf (lines : List Text) (t : Tally) : Prop where
  scanned : t.linesScanned = lines.length
  marked : t.markerLines = lines.countP fun raw => Line.isMarked (Line.chomp raw)
  groups : Groups lines t.entries.toList
  total : (t.entries.toList.map Entry.count).sum = t.markerLines
  together : ∀ i j : Fin lines.length, (∃ p, CountedAt lines i p ∧ CountedAt lines j p) ↔
    Line.isMarked (Line.chomp lines[i]) = true ∧ Line.isMarked (Line.chomp lines[j]) = true ∧
      SameMismatch (Line.chomp lines[i]) (Line.chomp lines[j])

theorem ofTexts_tallyOf (lines : List Text) : TallyOf lines (ofTexts lines) := by
  have held := ofTexts_holds lines
  exact ⟨linesScanned_ofTexts lines, held.markerLines.trans (length_historyOf lines),
    ofTexts_groups lines, sum_counts held, countedTogether_iff lines⟩

/-- **A scan is a grouping.** Every list of texts, and every log cut into lines, is tallied by key
in the order of first occurrence, and nothing else enters the tally. -/
theorem scan_groups_marked_lines :
    (∀ lines : List Text, TallyOf lines (ofTexts lines)) ∧
    ∀ log : Bytes, TallyOf ((Line.split log).map Line.text) (ofLog log) ∧
      (ofLog log).linesScanned = (Line.split log).length := by
  refine ⟨ofTexts_tallyOf, fun log => ⟨ofTexts_tallyOf (Line.texts log), ?_⟩⟩
  rw [ofLog, linesScanned_ofTexts, Line.texts, List.length_map]

end MismatchLog.Scan
