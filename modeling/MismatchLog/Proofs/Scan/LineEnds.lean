import MismatchLog.Proofs.Filtered.Partition
import MismatchLog.Proofs.Line.Terminated
import MismatchLog.Report
import Mathlib.Data.List.GetD

/-!
# Terminators have no meaning

* `Alike`, `alike_of_chomp`: lines that differ in their terminators only are tallied alike, and
  tallies that are alike give the same reports (`Alike.render`);
* `keptPlaces`, `lines_eq`: which lines the copy keeps depends on the bodies of the lines only;
* `terminators_have_no_meaning`: so two logs with the same bodies have the same tally and the same
  reports, and their copies keep the same lines, each with the terminator it has in its log.
-/

namespace MismatchLog.Scan

open Tally

/-- The same numbers and the same entries. Where the index keeps them does not show. -/
structure Alike (t t' : Tally) : Prop where
  linesScanned : t.linesScanned = t'.linesScanned
  markerLines : t.markerLines = t'.markerLines
  entries : t.entries = t'.entries

theorem historyOf_eq (lines : List Text) :
    historyOf lines = (lines.map Line.chomp).filterMap fun line =>
      if Line.isMarked line then some (Key.ofLine line, line) else none := by
  rw [List.filterMap_map]
  rfl

theorem alike_of_chomp {lines lines' : List Text}
    (h : lines.map Line.chomp = lines'.map Line.chomp) :
    Alike (ofTexts lines) (ofTexts lines') := by
  have held := ofTexts_holds lines
  have held' := ofTexts_holds lines'
  have hhistory : historyOf lines = historyOf lines' := by
    rw [historyOf_eq, historyOf_eq, h]
  have hlength : lines.length = lines'.length := by
    simpa using congrArg List.length h
  refine ⟨?_, ?_, ?_⟩
  · rw [linesScanned_ofTexts, linesScanned_ofTexts, hlength]
  · rw [held.markerLines, held'.markerLines, hhistory]
  · apply Array.toList_inj.mp
    rw [held.entries, held'.entries, hhistory]

/-- A report tells about the entries only. -/
theorem Alike.render {t t' : Tally} (h : Alike t t') (format : Format) (counts : Bool) :
    Report.render format counts t = Report.render format counts t' := by
  cases format with
  | text => rw [Report.render, Report.render, Report.textBody, Report.textBody, h.entries]
  | json => rw [Report.render, Report.render, Report.jsonBody, Report.jsonBody, h.entries]
  | csv => rw [Report.render, Report.render, Report.records, Report.records, h.entries]

/-! ## The lines that stay -/

/-- The places of the bodies that are not marked. -/
def keptPlaces (bodies : List Bytes) : List Nat :=
  (List.range bodies.length).filter fun i => !Filtered.isRemoved (bodies.getD i [])

theorem map_getD_range (lines : List Bytes) :
    (List.range lines.length).map (fun i => lines.getD i []) = lines := by
  apply List.ext_getElem (by simp)
  intro i hi _
  have hlt : i < lines.length := by simpa using hi
  simp [hlt]

theorem mem_keptPlaces_iff {bodies : List Bytes} {i : Nat} :
    i ∈ keptPlaces bodies ↔ ∃ body, bodies[i]? = some body ∧ ¬ Line.markerBytes <:+: body := by
  rw [keptPlaces, List.mem_filter, List.mem_range]
  constructor
  · rintro ⟨hlt, hkept⟩
    refine ⟨bodies[i], List.getElem?_eq_getElem hlt, ?_⟩
    rw [← Filtered.isRemoved_iff]
    simpa [hlt] using hkept
  · rintro ⟨body, hbody, hkept⟩
    obtain ⟨hlt, rfl⟩ := List.getElem?_eq_some_iff.mp hbody
    rw [← Filtered.isRemoved_iff] at hkept
    exact ⟨hlt, by simpa [hlt] using hkept⟩

theorem sorted_keptPlaces (bodies : List Bytes) : (keptPlaces bodies).Pairwise (· < ·) :=
  List.pairwise_lt_range.filter _

section
variable {bodies lines : List Bytes} (h : Line.Terminated bodies lines)
  (hbodies : ∀ body ∈ bodies, Line.IsBody body)
include h hbodies

/-- A line is removed exactly if its body is marked. -/
theorem isRemoved_getD (i : Nat) :
    Filtered.isRemoved (lines.getD i []) = Filtered.isRemoved (bodies.getD i []) := by
  have hi : (lines.map fun raw => Line.chomp (Line.text raw)).getD i (Line.chomp (Line.text [])) =
      (bodies.map Line.text).getD i (Line.text []) := by
    rw [h.map_chomp hbodies]
    rfl
  rw [List.getD_map, List.getD_map] at hi
  rw [Filtered.isRemoved_eq, hi]
  rfl

theorem lines_eq :
    Filtered.lines lines.flatten = (keptPlaces bodies).map fun i => lines.getD i [] := by
  have hpred : (fun raw => !Filtered.isRemoved raw) ∘ (fun i => lines.getD i []) =
      fun i => !Filtered.isRemoved (bodies.getD i []) := by
    funext i
    rw [Function.comp_apply, isRemoved_getD h hbodies]
  rw [Filtered.lines, h.split hbodies, keptPlaces, ← hpred, ← h.length_eq, ← List.filter_map,
    map_getD_range]

end

/-- **Terminators have no meaning.** Two logs are made of the same bodies, of which none holds a
line feed or ends in a carriage return. Each line ends in a line feed with or without a carriage
return in front of it, as either log likes, and the last may lack its terminator. Then both have the
same tally and the same reports, and a sink gets from both the lines in the same places, those
without the bytes of the marker, with the terminators that they have in the log. -/
theorem terminators_have_no_meaning {bodies lines lines' : List Bytes}
    (hbodies : ∀ body ∈ bodies, Line.lf ∉ body ∧ body.getLast? ≠ some Line.cr)
    (h : Line.Terminated bodies lines) (h' : Line.Terminated bodies lines') :
    (ofLog lines.flatten).linesScanned = (ofLog lines'.flatten).linesScanned ∧
    (ofLog lines.flatten).markerLines = (ofLog lines'.flatten).markerLines ∧
    (ofLog lines.flatten).entries = (ofLog lines'.flatten).entries ∧
    (∀ format counts, Report.render format counts (ofLog lines.flatten) =
      Report.render format counts (ofLog lines'.flatten)) ∧
    ∃ kept : List Nat, kept.Pairwise (· < ·) ∧
      (∀ i, i ∈ kept ↔ ∃ body, bodies[i]? = some body ∧ ¬ Line.markerBytes <:+: body) ∧
      (Filtered.delivery lines.flatten).sendTo .unbounded =
        ⟨kept.flatMap fun i => lines.getD i [], none⟩ ∧
      (Filtered.delivery lines'.flatten).sendTo .unbounded =
        ⟨kept.flatMap fun i => lines'.getD i [], none⟩ := by
  have hbodies : ∀ body ∈ bodies, Line.IsBody body :=
    fun body hbody => ⟨(hbodies body hbody).1, (hbodies body hbody).2⟩
  have hchomp : (Line.texts lines.flatten).map Line.chomp =
      (Line.texts lines'.flatten).map Line.chomp := by
    rw [Line.texts, Line.texts, h.split hbodies, h'.split hbodies, List.map_map, List.map_map]
    exact (h.map_chomp hbodies).trans (h'.map_chomp hbodies).symm
  have alike : Alike (ofLog lines.flatten) (ofLog lines'.flatten) := alike_of_chomp hchomp
  refine ⟨alike.linesScanned, alike.markerLines, alike.entries, alike.render, keptPlaces bodies,
    sorted_keptPlaces bodies, fun i => mem_keptPlaces_iff, ?_, ?_⟩
  · rw [Filtered.sendTo_delivery, Filtered.copy, lines_eq h hbodies, List.flatMap_def]
  · rw [Filtered.sendTo_delivery, Filtered.copy, lines_eq h' hbodies, List.flatMap_def]

/-- A marked body that breaks off within a character. -/
def tornBody : Bytes := Line.markerBytes ++ [0xE2, 0x82]

/-- The torn body twice, and a letter between them. -/
def tornBodies : List Bytes := [tornBody, [0x6B], tornBody]

/-- In one log a carriage return follows the torn character, in the other nothing does. -/
theorem terminators_have_no_meaning_torn :
    let lines := [tornBody ++ [Line.cr, Line.lf], [0x6B, Line.lf], tornBody]
    let lines' := [tornBody ++ [Line.lf], [0x6B, Line.cr, Line.lf],
      tornBody ++ [Line.cr, Line.lf]]
    (∀ body ∈ tornBodies, Line.lf ∉ body ∧ body.getLast? ≠ some Line.cr) ∧
    Line.Terminated tornBodies lines ∧ Line.Terminated tornBodies lines' ∧
    (ofLog lines.flatten).markerLines = (ofLog lines'.flatten).markerLines ∧
    (ofLog lines.flatten).entries = (ofLog lines'.flatten).entries ∧
    Report.render .json true (ofLog lines.flatten) =
      Report.render .json true (ofLog lines'.flatten) := by
  intro lines lines'
  have hbodies : ∀ body ∈ tornBodies, Line.lf ∉ body ∧ body.getLast? ≠ some Line.cr := by decide
  have h : Line.Terminated tornBodies lines :=
    .cons .crlf (.cons .lf (.unended (by decide)))
  have h' : Line.Terminated tornBodies lines' := .cons .lf (.cons .crlf (.cons .crlf .nil))
  obtain ⟨-, hmarked, hentries, hreport, -⟩ := terminators_have_no_meaning hbodies h h'
  exact ⟨hbodies, h, h', hmarked, hentries, hreport .json true⟩

end MismatchLog.Scan
