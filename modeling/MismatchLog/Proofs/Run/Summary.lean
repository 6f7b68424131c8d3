import MismatchLog.Proofs.Run.Ending

/-!
# The summary of a run

* `run_summary`: a run that succeeds, whatever its sinks, gives these numbers for the log it read;
* `stats_fits`: the numbers of the copy fit the tally's, and so they do in every summary.
-/

namespace MismatchLog.Run

/-- A run that succeeds gives the numbers of the log it read. -/
theorem run_summary {w : World} {job : Job} {s : Summary} (h : (run w job).outcome = .ok s) :
    ∃ log, readInput w job.input = .ok log ∧
      s = summary (Scan.ofLog log) (job.filtered.map fun _ => Filtered.stats log) := by
  have hend := run_ending w job
  rw [h] at hend
  cases hend with
  | written hread => exact ⟨_, hread, rfl⟩

/-! ## Scan and copy -/

/-- The numbers of a copy fit the tally of the same log. -/
structure Fits (t : Tally) (copied : Filtered.Stats) : Prop where
  marked : copied.removed = t.markerLines
  counts : (t.entries.toList.map Entry.count).sum = copied.removed
  scanned : copied.kept + copied.removed = t.linesScanned

theorem stats_fits (log : Bytes) : Fits (Scan.ofLog log) (Filtered.stats log) := by
  have tally := Scan.ofTexts_tallyOf (Line.texts log)
  refine ⟨Filtered.removed_eq log, ?_, ?_⟩
  · rw [Filtered.removed_eq]
    exact tally.total
  · rw [Filtered.kept_add_removed, Scan.ofLog, tally.scanned, Line.texts, List.length_map]

/-- **Scan and copy part every log alike**, though one tests lines without their terminators and the
other with them: the lines that a whole copy lacks are those that the scan counts, the numbers of
both fit whatever sink took the copy, and a run that succeeds with a copy returns these numbers. -/
theorem scan_and_copy_agree :
    (∀ log : Bytes,
      (∃ copied, Filtered.result log ((Filtered.delivery log).sendTo .unbounded) = .ok copied) ∧
      ((Filtered.delivery log).sendTo .unbounded).taken =
        ((Line.split log).filter fun raw => !Filtered.isRemoved raw).flatten ∧
      (∀ i : Fin (Line.split log).length, Filtered.isRemoved ((Line.split log).get i) = true ↔
        ∃ p, Scan.CountedAt (Line.texts log) i p) ∧
      ∀ (sink : Sink) (copied : Filtered.Stats),
        Filtered.result log ((Filtered.delivery log).sendTo sink) = .ok copied →
          Fits (Scan.ofLog log) copied) ∧
    ∀ (w : World) (job : Job) (s : Summary), job.filtered.isSome → (run w job).outcome = .ok s →
      ∃ log copied, readInput w job.input = .ok log ∧ s.filter = some copied ∧
        Fits (Scan.ofLog log) copied ∧ copied.removed = s.markerLines ∧
        copied.kept + copied.removed = s.linesScanned := by
  refine ⟨?_, ?_⟩
  · intro log
    refine ⟨⟨_, Filtered.result_unbounded log⟩, ?_, Filtered.isRemoved_iff_counted log, ?_⟩
    · rw [Filtered.sendTo_delivery]
      rfl
    · intro sink copied h
      rw [Filtered.result_stats h]
      exact stats_fits log
  · intro w job s hcopy h
    obtain ⟨log, hlog, rfl⟩ := run_summary h
    obtain ⟨path, hpath⟩ := Option.isSome_iff_exists.mp hcopy
    have fits := stats_fits log
    refine ⟨log, Filtered.stats log, hlog, ?_, fits, fits.marked, fits.scanned⟩
    simp [summary, hpath]

/-- A marked line that ends in carriage return and line feed, and a line that ends nowhere. -/
def twoLines : Bytes :=
  Utf8.encode "GVM error: DUT and REF xreg mismatch DUT = 0x1, REF = 0x2\r\nok".toList

/-- No files yet, and the two lines on the standard input. -/
def freshWorld : World := ⟨⟨[], []⟩, twoLines, .unbounded⟩

def copyJob : Job := ⟨.stdin, .stdout, true, .json, some "kept.log".toList⟩

theorem copyJob_outcome : (run freshWorld copyJob).outcome =
    .ok (summary (Scan.ofLog twoLines) (some (Filtered.stats twoLines))) := by
  have hopen : openAndWrite freshWorld copyJob twoLines = write freshWorld copyJob twoLines
      ⟨[(["kept.log".toList], .file [])], []⟩ .stdout
      (some (.file "kept.log".toList ["kept.log".toList])) := rfl
  show (openAndWrite freshWorld copyJob twoLines).outcome = _
  rw [hopen]
  have hreport : (Output.stdout.sink freshWorld).Works := Sink.works_unbounded
  have hcopy : ∀ o ∈ some (Output.file "kept.log".toList ["kept.log".toList]),
      (o.sink freshWorld).Works := by
    rintro o ⟨⟩
    exact Sink.works_unbounded
  exact (write_working hreport hcopy _ _ _).1

theorem scan_and_copy_agree_fresh :
    (∃ copied, Filtered.result twoLines ((Filtered.delivery twoLines).sendTo .unbounded) =
      .ok copied ∧ Fits (Scan.ofLog twoLines) copied) ∧
    copyJob.filtered.isSome = true ∧
    ∃ s, (run freshWorld copyJob).outcome = .ok s ∧
      ∃ log copied, readInput freshWorld copyJob.input = .ok log ∧ s.filter = some copied ∧
        Fits (Scan.ofLog log) copied ∧ copied.removed = s.markerLines ∧
        copied.kept + copied.removed = s.linesScanned := by
  refine ⟨⟨_, Filtered.result_unbounded twoLines, ?_⟩, rfl, _, copyJob_outcome, ?_⟩
  · exact (scan_and_copy_agree.1 twoLines).2.2.2 .unbounded _ (Filtered.result_unbounded twoLines)
  · exact scan_and_copy_agree.2 freshWorld copyJob _ rfl copyJob_outcome

end MismatchLog.Run
