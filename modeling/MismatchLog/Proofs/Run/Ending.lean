import MismatchLog.Proofs.Run.Truncation

/-!
# How a run ends

`Ending` lists the ways in which a run can end, with what is known about the tree by then, and
`run_ending` says that there are no others. What a failed or a finished run leaves goes by cases on
it, so no other proof opens the run.
-/

namespace MismatchLog.Run

inductive Ending (w : World) (job : Job) : Except RunError Summary → FileTree → Prop
  /-- Something could not be opened. -/
  | unopened {err : RunError} {t : FileTree} (first : FirstFailure w job err) :
      Ending w job (.error err) t
  /-- The report could not be truncated. -/
  | untruncated {log : Bytes} {report : Output} {filtered : Option Output} {t : FileTree}
      {path : Text} {e : IoError} (opened : Opened w job log report filtered t) :
      Ending w job (.error (.io .truncateReport path e)) t
  /-- The copy could not be truncated, but the report was. -/
  | halfTruncated {log : Bytes} {report : Output} {filtered : Option Output} {t t₁ : FileTree}
      {path : Text} {e : IoError} (opened : Opened w job log report filtered t)
      (truncated : report.truncate t = .ok t₁) :
      Ending w job (.error (.io .truncateFiltered path e)) t₁
  /-- The report could not be written as a whole. -/
  | unwritten {t : FileTree} {e : ReportError} : Ending w job (.error (.report e)) t
  /-- The copy could not be written as a whole. -/
  | halfWritten {t : FileTree} {path : Text} {e : IoError} :
      Ending w job (.error (.io .writeFiltered path e)) t
  /-- All was written. -/
  | written {log : Bytes} {t : FileTree} (read : readInput w job.input = .ok log) :
      Ending w job (.ok (summary (Scan.ofLog log)
        (job.filtered.map fun _ => Filtered.stats log))) t

theorem run_ending (w : World) (job : Job) :
    Ending w job (run w job).outcome (run w job).tree := by
  rcases firstFailure_or_opened w job with ⟨err, hfirst⟩ | ⟨log, report, filtered, t, hopened⟩
  · rw [outcome_of_firstFailure hfirst]
    exact .unopened hfirst
  · obtain ⟨t₁, -, hcopy⟩ := hopened.outputs
    have heffect := run_of_opened hopened
    rw [heffect.outcome, heffect.tree]
    rcases truncateAndWrite_cases w job log t report filtered with
      ⟨e, -, heq⟩ | ⟨t₂, o, e, htruncate, -, -, heq⟩ | ⟨t₂, t₃, -, -, heq⟩
    · rw [heq]
      exact .untruncated hopened
    · rw [heq]
      exact .halfTruncated hopened htruncate
    · rw [heq]
      rcases write_cases w job log t₃ report filtered with ⟨e, hw⟩ | ⟨path, e, hw⟩ | hw
      · rw [hw]
        exact .unwritten
      · rw [hw]
        exact .halfWritten
      · rw [hw, hcopy.map_const]
        exact .written hopened.read

end MismatchLog.Run
