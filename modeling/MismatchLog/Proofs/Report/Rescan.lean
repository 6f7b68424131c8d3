import MismatchLog.Proofs.Key.Surroundings
import MismatchLog.Proofs.Report.Pieces
import MismatchLog.Proofs.Scan.Entries
import MismatchLog.Proofs.Text.Decimal
import MismatchLog.Proofs.Tally.Selection

/-!
# A report as text is scanned again

* `texts_textBody`: the lines of a report are those of its entries, one each;
* `rescan_holds`: a scan of them records every one;
* `hexPairs_rescan`: pairs keep their keys, whatever stands in front of the lines;
* `entries_rescan_iff`, `textBody_rescan_iff`: without counts the scan finds the same entries, and
  makes the same report of them, exactly if no line ends with a carriage return. Such a line loses
  it to the line feed behind it.
-/

namespace MismatchLog

namespace Entry

/-- What stands in front of an entry's line in a report. -/
def lead (counts : Bool) (e : Entry) : Text :=
  if counts then '[' :: Text.decimal e.count ++ [']', ' '] else []

theorem toLine_eq (counts : Bool) (e : Entry) :
    e.toLine counts = e.lead counts ++ e.line ++ ['\n'] := by
  unfold toLine lead
  split <;> rfl

theorem not_mem_lead {c : Char} (hc : c.isDigit = false) (hsigns : c ∉ ['[', ']', ' '])
    (counts : Bool) (e : Entry) : c ∉ e.lead counts := by
  have hdecimal : c ∉ Text.decimal e.count := by
    intro hmem
    rw [Text.isDigit_of_mem_decimal hmem] at hc
    cases hc
  unfold lead
  split
  · simp only [List.mem_cons, List.not_mem_nil, or_false, not_or] at hsigns
    simp [hdecimal, hsigns]
  · exact List.not_mem_nil

theorem firstPair?_chomp_toLine (counts : Bool) (e : Entry) :
    Key.firstPair? (Line.chomp (e.toLine counts)) = Key.firstPair? e.line := by
  have hlead : 'D' ∉ e.lead counts := not_mem_lead (by decide) (by decide) counts e
  rw [Key.firstPair?_chomp, toLine_eq, Key.firstPair?_concat (by decide),
    Key.firstPair?_append_left hlead]

theorem isMarked_toLine {e : Entry} (h : Line.isMarked e.line = true) (counts : Bool) :
    Line.isMarked (e.toLine counts) = true := by
  rw [Line.isMarked_iff] at h ⊢
  rw [toLine_eq]
  exact h.trans ⟨e.lead counts, ['\n'], rfl⟩

/-- The count in front of a line, and the line. -/
def countedLine? (t : Text) : Option (Nat × Text) := do
  let t ← Text.after? ['['] t
  let n ← Text.ofDecimal? (t.takeWhile Char.isDigit)
  let t ← Text.after? [']', ' '] (t.dropWhile Char.isDigit)
  return (n, t.dropLast)

theorem countedLine?_toLine (e : Entry) :
    countedLine? (e.toLine true) = some (e.count, e.line) := by
  have hdigits : ∀ c ∈ Text.decimal e.count, c.isDigit = true :=
    fun _ => Text.isDigit_of_mem_decimal
  have hstops : Key.Stops Char.isDigit ([']', ' '] ++ (e.line ++ ['\n'])) :=
    Key.stops_cons (by decide)
  have hline : e.toLine true =
      ['['] ++ (Text.decimal e.count ++ ([']', ' '] ++ (e.line ++ ['\n']))) := by
    simp [toLine]
  have hopen := Key.after?_eq_some_iff.mpr hline
  have hclose : Text.after? [']', ' '] ([']', ' '] ++ (e.line ++ ['\n'])) =
      some (e.line ++ ['\n']) :=
    Key.after?_eq_some_iff.mpr rfl
  simp only [countedLine?, hopen, Option.bind_eq_bind, Option.bind_some,
    Key.takeWhile_run hdigits hstops, Key.dropWhile_run hdigits hstops, Text.ofDecimal?_decimal,
    hclose, List.dropLast_concat]
  rfl

end Entry

namespace Report

open Tally Scan

/-! ## The lines of a report -/

theorem textBody_eq (counts : Bool) (t : Tally) :
    textBody counts t =
      (t.entries.toList.map fun e => e.lead counts ++ e.line).flatMap (· ++ ['\n']) := by
  rw [textBody, List.flatMap_map]
  congr 1
  funext e
  exact e.toLine_eq counts

section
variable {t : Tally} (h : ∀ e ∈ t.entries.toList, '\n' ∉ e.line) (counts : Bool)
include h

theorem lf_not_mem_bodies :
    ∀ body ∈ t.entries.toList.map (fun e => e.lead counts ++ e.line), '\n' ∉ body := by
  intro body hbody
  obtain ⟨e, he, rfl⟩ := List.mem_map.mp hbody
  rw [List.mem_append, not_or]
  exact ⟨Entry.not_mem_lead (by decide) (by decide) counts e, h e he⟩

theorem split_textBody :
    Line.split (Utf8.encode (textBody counts t)) =
      t.entries.toList.map fun e => Utf8.encode (e.lead counts ++ e.line ++ ['\n']) := by
  rw [textBody_eq, Line.split_encode (lf_not_mem_bodies h counts), Line.ended, List.map_map]
  rfl

theorem texts_textBody :
    Line.texts (Utf8.encode (textBody counts t)) = t.entries.toList.map (Entry.toLine counts) := by
  rw [textBody_eq, Line.texts_encode (lf_not_mem_bodies h counts), List.map_map]
  exact List.map_congr_left fun e _ => (e.toLine_eq counts).symm

end

/-- Without counts a report says what its lines are. -/
theorem textBody_eq_iff {t t' : Tally} (h : ∀ e ∈ t.entries.toList, '\n' ∉ e.line)
    (h' : ∀ e ∈ t'.entries.toList, '\n' ∉ e.line) :
    Utf8.encode (textBody false t) = Utf8.encode (textBody false t') ↔
      t.entries.toList.map Entry.line = t'.entries.toList.map Entry.line := by
  constructor
  · intro heq
    have htexts := congrArg Line.texts heq
    rw [texts_textBody h, texts_textBody h'] at htexts
    have hdrop := congrArg (List.map List.dropLast) htexts
    simpa [Function.comp_def, Entry.toLine] using hdrop
  · intro heq
    have hbody (t : Tally) :
        textBody false t = (t.entries.toList.map Entry.line).flatMap (· ++ ['\n']) :=
      textBody_eq false t
    rw [hbody, hbody, heq]

/-! ## The scan of a report -/

section
variable (counts : Bool) (log : Bytes)

/-- The scan of the report of a log. -/
def rescan : Tally := ofLog (Utf8.encode (textBody counts (ofLog log)))

theorem rescan_eq :
    rescan counts log = ofTexts ((ofLog log).entries.toList.map (Entry.toLine counts)) := by
  rw [rescan, ofLog, texts_textBody (fun e he => lf_not_mem_line he)]

/-- What the scan of a report records of an entry. -/
def again (e : Entry) : Key × Text :=
  (Key.ofLine (Line.chomp (e.toLine counts)), Line.chomp (e.toLine counts))

theorem rescan_holds :
    Holds (rescan counts log) ((ofLog log).entries.toList.map (again counts)) := by
  have hmarked : ∀ raw ∈ (ofLog log).entries.toList.map (Entry.toLine counts),
      Line.isMarked raw = true := by
    intro raw hraw
    obtain ⟨e, he, rfl⟩ := List.mem_map.mp hraw
    exact Entry.isMarked_toLine (isMarked_line he) counts
  have held := ofTexts_holds ((ofLog log).entries.toList.map (Entry.toLine counts))
  rw [historyOf_of_isMarked hmarked, List.map_map, ← rescan_eq] at held
  exact held

theorem linesScanned_rescan : (rescan counts log).linesScanned = (ofLog log).size := by
  rw [rescan_eq, linesScanned_ofTexts, List.length_map, Array.length_toList, Tally.size]

theorem markerLines_rescan : (rescan counts log).markerLines = (ofLog log).size := by
  rw [(rescan_holds counts log).markerLines, List.length_map, Array.length_toList, Tally.size]

/-! ## Pairs -/

theorem isHexPair_again {e : Entry} (he : e ∈ (ofLog log).entries.toList) :
    (again counts e).1.isHexPair = e.key.isHexPair := by
  rw [again, key_eq_ofLine he, Key.isHexPair_ofLine, Key.isHexPair_ofLine,
    Entry.firstPair?_chomp_toLine]

theorem key_again {e : Entry} (he : e ∈ (ofLog log).entries.toList)
    (hpair : e.key.isHexPair = true) : (again counts e).1 = e.key := by
  rw [key_eq_ofLine he] at hpair ⊢
  exact Key.ofLine_eq_of_firstPair?_eq (e.firstPair?_chomp_toLine counts) hpair

/-- The records of pairs are those of the entries with pairs, under their keys. -/
theorem select_again :
    select Key.isHexPair ((ofLog log).entries.toList.map (again counts)) =
      ((ofLog log).entries.toList.filter fun e => e.key.isHexPair).map fun e =>
        (e.key, (again counts e).2) := by
  rw [select, List.filter_map]
  have hfilter : (ofLog log).entries.toList.filter ((fun r => r.1.isHexPair) ∘ again counts) =
      (ofLog log).entries.toList.filter fun e => e.key.isHexPair :=
    List.filter_congr fun e he => isHexPair_again counts log he
  rw [hfilter]
  apply List.map_congr_left
  intro e he
  obtain ⟨hmem, hpair⟩ := List.mem_filter.mp he
  exact Prod.ext (key_again counts log hmem hpair) rfl

theorem hexPairs_rescan :
    ((rescan counts log).entries.toList.filter fun e => e.key.isHexPair).map
        (fun e => (e.count, e.key)) =
      ((ofLog log).entries.toList.filter fun e => e.key.isHexPair).map fun e => (1, e.key) := by
  have hdistinct : ((select Key.isHexPair ((ofLog log).entries.toList.map (again counts))).map
      Prod.fst).Nodup := by
    rw [select_again, List.map_map]
    exact (nodup_keys (Line.texts log)).sublist (List.filter_sublist.map Entry.key)
  rw [(rescan_holds counts log).entries, ← entriesOf_select, entriesOf_of_nodup hdistinct,
    select_again, List.map_map, List.map_map]
  rfl

end

/-! ## Reports without counts -/

section
variable (log : Bytes)

theorem line_again_iff (e : Entry) :
    (again false e).2 = e.line ↔ e.line.getLast? ≠ some '\r' := by
  have hagain : (again false e).2 = Line.chomp (e.line ++ ['\n']) := rfl
  rw [hagain]
  constructor
  · intro heq hcr
    obtain ⟨u, hu⟩ := List.getLast?_eq_some_iff.mp hcr
    rw [hu, List.append_assoc, List.singleton_append, Line.chomp_crlf] at heq
    simpa using congrArg List.length heq
  · exact Line.chomp_concat

/-- If all lines stay as they are, so do the keys. -/
theorem entries_rescan (h : ∀ e ∈ (ofLog log).entries.toList, e.line.getLast? ≠ some '\r') :
    (rescan false log).entries.toList =
      (ofLog log).entries.toList.map fun e => { e with count := 1 } := by
  have hagain : (ofLog log).entries.toList.map (again false) =
      (ofLog log).entries.toList.map fun e => (e.key, e.line) := by
    apply List.map_congr_left
    intro e he
    have hline := (line_again_iff e).mpr (h e he)
    have hkey : (again false e).1 = Key.ofLine (again false e).2 := rfl
    rw [hline, ← key_eq_ofLine he] at hkey
    exact Prod.ext hkey hline
  have hdistinct : (((ofLog log).entries.toList.map (again false)).map Prod.fst).Nodup := by
    rw [hagain, List.map_map]
    exact nodup_keys (Line.texts log)
  rw [(rescan_holds false log).entries, entriesOf_of_nodup hdistinct, hagain, List.map_map]
  rfl

theorem lines_rescan_iff :
    (rescan false log).entries.toList.map Entry.line = (ofLog log).entries.toList.map Entry.line ↔
      ∀ e ∈ (ofLog log).entries.toList, e.line.getLast? ≠ some '\r' := by
  constructor
  · intro heq
    -- as many entries as there were: no two of the lines came to share a key
    have hlength := congrArg List.length heq
    rw [(rescan_holds false log).entries, List.length_map, List.length_map] at hlength
    have hdistinct := nodup_of_length_entriesOf (hlength.trans (List.length_map (again false)).symm)
    rw [(rescan_holds false log).entries, entriesOf_of_nodup hdistinct, List.map_map,
      List.map_map, List.map_inj_left] at heq
    intro e he
    exact (line_again_iff e).mp (heq e he)
  · intro h
    rw [entries_rescan log h, List.map_map]
    rfl

theorem entries_rescan_iff :
    (rescan false log).entries.toList =
        ((ofLog log).entries.toList.map fun e => { e with count := 1 }) ↔
      ∀ e ∈ (ofLog log).entries.toList, e.line.getLast? ≠ some '\r' := by
  constructor
  · intro heq
    have hlines := congrArg (List.map Entry.line) heq
    rw [List.map_map] at hlines
    exact (lines_rescan_iff log).mp hlines
  · exact entries_rescan log

theorem textBody_rescan_iff :
    Utf8.encode (textBody false (rescan false log)) = Utf8.encode (textBody false (ofLog log)) ↔
      ∀ e ∈ (ofLog log).entries.toList, e.line.getLast? ≠ some '\r' :=
  (textBody_eq_iff (fun _ he => lf_not_mem_line he) (fun _ he => lf_not_mem_line he)).trans
    (lines_rescan_iff log)

end

/-- **A report as text can be read back and scanned again.** Its lines are those of the entries, one
each, behind their counts if these are asked for, and then the counts and lines can be read off. A
scan of it finds a marked line for every entry, and the same pairs in the same order. Without counts
it finds the very entries, each once, and makes the same report of them, exactly if no entry's line
ends with a carriage return. -/
theorem report_scanned_again :
    (∀ (counts : Bool) (log : Bytes), ∃ report : Bytes,
      (delivery .text counts (ofLog log)).sendTo .unbounded = ⟨report, none⟩ ∧
      Line.split report = (ofLog log).entries.toList.map (fun e =>
        Utf8.encode ((if counts then '[' :: Text.decimal e.count ++ [']', ' '] else []) ++
          e.line ++ ['\n'])) ∧
      (ofLog report).linesScanned = (ofLog log).size ∧
      (ofLog report).markerLines = (ofLog log).size ∧
      ((ofLog report).entries.toList.filter fun e => e.key.isHexPair).map
          (fun e => (e.count, e.key)) =
        ((ofLog log).entries.toList.filter fun e => e.key.isHexPair).map fun e => (1, e.key)) ∧
    (∀ log : Bytes, ∃ report : Bytes,
      (delivery .text true (ofLog log)).sendTo .unbounded = ⟨report, none⟩ ∧
      (Line.texts report).map Entry.countedLine? =
        (ofLog log).entries.toList.map fun e => some (e.count, e.line)) ∧
    ∀ log : Bytes, ∃ report : Bytes,
      (delivery .text false (ofLog log)).sendTo .unbounded = ⟨report, none⟩ ∧
      ((ofLog report).entries.toList =
          ((ofLog log).entries.toList.map fun e => { e with count := 1 }) ↔
        ∀ e ∈ (ofLog log).entries.toList, e.line.getLast? ≠ some '\r') ∧
      ((delivery .text false (ofLog report)).sendTo .unbounded = ⟨report, none⟩ ↔
        ∀ e ∈ (ofLog log).entries.toList, e.line.getLast? ≠ some '\r') := by
  refine ⟨?_, ?_, ?_⟩
  · intro counts log
    exact ⟨Utf8.encode (textBody counts (ofLog log)), sendTo_delivery .text counts _,
      split_textBody (fun e he => lf_not_mem_line he) counts, linesScanned_rescan counts log,
      markerLines_rescan counts log, hexPairs_rescan counts log⟩
  · intro log
    refine ⟨_, sendTo_delivery .text true _, ?_⟩
    rw [render, texts_textBody (fun e he => lf_not_mem_line he), List.map_map]
    exact List.map_congr_left fun e _ => e.countedLine?_toLine
  · intro log
    refine ⟨Utf8.encode (textBody false (ofLog log)), sendTo_delivery .text false _,
      entries_rescan_iff log, ?_⟩
    have hagain : (delivery .text false (rescan false log)).sendTo .unbounded =
        ⟨Utf8.encode (textBody false (rescan false log)), none⟩ := sendTo_delivery .text false _
    rw [rescan] at hagain
    rw [hagain, Delivery.Outcome.mk.injEq, and_iff_left rfl]
    exact textBody_rescan_iff log

end Report
end MismatchLog
