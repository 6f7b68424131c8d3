import MismatchLog.Proofs.FileTree.Opening
import MismatchLog.Proofs.Sink.Bounded
import MismatchLog.Run

/-!
# From empty outputs to written ones

* `write_cases`: writing fails in the report, or in the copy, or returns the numbers of the log's
  tally and of its copy, whatever the sinks are;
* `write_of_copied`, `write_of_uncopied`, `write_of_unreported`: it is decided by whether the report
  goes through, and then by whether the copy does, and `write_working` says that into working sinks
  both are written as a whole;
* `at?_commit`, `at?_commitCopy`: where the bytes that were taken are then.
-/

namespace MismatchLog.Run

/-- The place of an output that is a file. -/
def Output.place? : Output → Option Place
  | .stdout => none
  | .file _ p => some p

theorem sink_of_place {w : World} {o : Output} {p : Place} (h : o.place? = some p) :
    o.sink w = w.file p := by
  cases o with
  | stdout => cases h
  | file path q =>
    obtain rfl := Option.some.inj h
    rfl

/-- The place of the copy's output, if there is one. -/
def copyPlace? (filtered : Option Output) : Option Place := filtered.bind Output.place?

/-- Puts what was taken of a copy into the tree, if there is one. -/
def commitCopy (t : FileTree) (taken : Bytes) : Option Output → FileTree
  | none => t
  | some o => o.commit t taken

/-! ## Outcomes -/

theorem writeFiltered_cases (w : World) (log : Bytes) (t : FileTree) (filtered : Option Output) :
    (∃ path e, (writeFiltered w log t filtered).1 = .error (.io .writeFiltered path e)) ∨
    ∃ events, (writeFiltered w log t filtered).1 =
      .ok (filtered.map fun _ => Filtered.stats log, events) := by
  cases filtered with
  | none => exact .inr ⟨[], rfl⟩
  | some o =>
    unfold writeFiltered
    dsimp only
    split
    · rename_i stats hstats
      rw [Filtered.result_stats hstats]
      exact .inr ⟨_, rfl⟩
    · exact .inl ⟨_, _, rfl⟩

theorem write_cases (w : World) (job : Job) (log : Bytes) (t : FileTree) (report : Output)
    (filtered : Option Output) :
    (∃ e, (write w job log t report filtered).outcome = .error (.report e)) ∨
    (∃ path e, (write w job log t report filtered).outcome =
      .error (.io .writeFiltered path e)) ∨
    (write w job log t report filtered).outcome =
      .ok (summary (Scan.ofLog log) (filtered.map fun _ => Filtered.stats log)) := by
  unfold write
  dsimp only
  split
  · exact .inl ⟨_, rfl⟩
  · generalize report.commit t _ = t'
    right
    rcases writeFiltered_cases w log t' filtered with ⟨path, e, hcopy⟩ | ⟨events, hcopy⟩
    · refine .inl ⟨path, e, ?_⟩
      rw [← Prod.eta (writeFiltered w log t' filtered), hcopy]
    · refine .inr ?_
      rw [← Prod.eta (writeFiltered w log t' filtered), hcopy]

/-! ## Reports and copies that go through, and others -/

/-- The bytes of the report that a job asks for. -/
def reportOf (job : Job) (log : Bytes) : Bytes :=
  Utf8.encode (Report.render job.format job.counts (Scan.ofLog log))

/-- What comes of handing the report of a log over to a sink. -/
def reporting (job : Job) (log : Bytes) (sink : Sink) : Delivery.Outcome :=
  ((Report.delivery job.format job.counts (Scan.ofLog log)).buffered Buffer.capacity).sendTo sink

/-- What comes of handing the copy of a log over to a sink. -/
def copying (log : Bytes) (sink : Sink) : Delivery.Outcome :=
  ((Filtered.delivery log).buffered Buffer.capacity).sendTo sink

/-- What is told about a copy that was written. -/
def copyTold (log : Bytes) (filtered : Option Output) : List Event :=
  (filtered.map fun o => .filteredWritten o.display (Filtered.stats log)).toList

theorem bytes_reporting (job : Job) (log : Bytes) :
    ((Report.delivery job.format job.counts (Scan.ofLog log)).buffered Buffer.capacity).bytes =
      reportOf job log := by
  rw [Delivery.bytes_buffered, Report.bytes_delivery, reportOf]

theorem bytes_copying (log : Bytes) :
    ((Filtered.delivery log).buffered Buffer.capacity).bytes = Filtered.copy log := by
  rw [Delivery.bytes_buffered, Filtered.bytes_delivery]

theorem failure_reporting_iff {job : Job} {log : Bytes} {sink : Sink} :
    (reporting job log sink).failure = none ↔ sink.Takes (reportOf job log) := by
  rw [reporting, Delivery.failure_sendTo_iff_takes, bytes_reporting]

theorem failure_copying_iff {log : Bytes} {sink : Sink} :
    (copying log sink).failure = none ↔ sink.Takes (Filtered.copy log) := by
  rw [copying, Delivery.failure_sendTo_iff_takes, bytes_copying]

theorem taken_copying (log : Bytes) (sink : Sink) :
    (copying log sink).taken = sink.beginning (Filtered.copy log) := by
  rw [copying, Delivery.taken_sendTo, bytes_copying]

theorem copying_working {sink : Sink} (h : sink.Works) (log : Bytes) :
    copying log sink = ⟨Filtered.copy log, none⟩ := by
  rw [copying, Delivery.sendTo_working h, bytes_copying]

section
variable {w : World} {job : Job} {log : Bytes} {report : Output} {filtered : Option Output}

theorem writeFiltered_of_copied
    (hcopy : ∀ o ∈ filtered, (copying log (o.sink w)).failure = none) (t : FileTree) :
    writeFiltered w log t filtered =
      (.ok (filtered.map fun _ => Filtered.stats log, copyTold log filtered),
        commitCopy t (Filtered.copy log) filtered) := by
  cases filtered with
  | none => rfl
  | some o =>
    have hthrough := hcopy o rfl
    have htaken := taken_copying log (o.sink w)
    rw [(failure_copying_iff.mp hthrough).beginning_eq] at htaken
    rw [copying] at hthrough htaken
    simp only [writeFiltered, Filtered.result, hthrough, htaken, Option.map_some, commitCopy,
      copyTold, Option.toList_some]

theorem writeFiltered_of_uncopied {o : Output} {stage : Delivery.Stage} {e : IoError}
    (hcopy : (copying log (o.sink w)).failure = some (stage, e)) (t : FileTree) :
    writeFiltered w log t (some o) =
      (.error (.io .writeFiltered o.display e), o.commit t (copying log (o.sink w)).taken) := by
  rw [copying] at hcopy
  simp only [writeFiltered, Filtered.result, hcopy, copying]

/-- All is written once the report has gone through, if the copy does too. -/
theorem write_of_copied (hreport : (reporting job log (report.sink w)).failure = none)
    (hcopy : ∀ o ∈ filtered, (copying log (o.sink w)).failure = none) (t : FileTree) :
    write w job log t report filtered =
      ⟨.ok (summary (Scan.ofLog log) (filtered.map fun _ => Filtered.stats log)),
        commitCopy (report.commit t (reporting job log (report.sink w)).taken)
          (Filtered.copy log) filtered,
        report.shown (reporting job log (report.sink w)).taken,
        classification log (Scan.ofLog log) ++ copyTold log filtered ++ [.complete]⟩ := by
  rw [reporting] at hreport
  simp only [write, Report.result, hreport, writeFiltered_of_copied hcopy, reporting]

/-- What was taken of a copy that does not go through stays in its file. -/
theorem write_of_uncopied {o : Output} {stage : Delivery.Stage} {e : IoError}
    (hreport : (reporting job log (report.sink w)).failure = none)
    (hcopy : (copying log (o.sink w)).failure = some (stage, e)) (t : FileTree) :
    write w job log t report (some o) =
      ⟨.error (.io .writeFiltered o.display e),
        o.commit (report.commit t (reporting job log (report.sink w)).taken)
          (copying log (o.sink w)).taken,
        report.shown (reporting job log (report.sink w)).taken,
        classification log (Scan.ofLog log)⟩ := by
  rw [reporting] at hreport
  simp only [write, Report.result, hreport, writeFiltered_of_uncopied hcopy, reporting]

/-- Nothing is written, and no more is told, after a report that has not. -/
theorem write_of_unreported {stage : Delivery.Stage} {e : IoError}
    (hreport : (reporting job log (report.sink w)).failure = some (stage, e)) (t : FileTree) :
    write w job log t report filtered =
      ⟨.error (.report ⟨Report.failureKind job.format stage, report.display, e⟩),
        report.commit t (reporting job log (report.sink w)).taken,
        report.shown (reporting job log (report.sink w)).taken,
        classification log (Scan.ofLog log)⟩ := by
  rw [reporting] at hreport
  simp only [write, Report.result, hreport, reporting]

end

theorem reporting_working {sink : Sink} (h : sink.Works) (job : Job) (log : Bytes) :
    reporting job log sink = ⟨reportOf job log, none⟩ := by
  rw [reporting, Delivery.sendTo_working h, bytes_reporting]

/-- Into working sinks a report and a copy are written without fail and as a whole. -/
theorem write_working {w : World} {report : Output} {filtered : Option Output}
    (hr : (report.sink w).Works) (hf : ∀ o ∈ filtered, (o.sink w).Works) (job : Job)
    (log : Bytes) (t : FileTree) :
    let written := reportOf job log
    let r := write w job log t report filtered
    r.outcome = .ok (summary (Scan.ofLog log) (filtered.map fun _ => Filtered.stats log)) ∧
      r.tree = commitCopy (report.commit t written) (Filtered.copy log) filtered ∧
      r.stdout = report.shown written := by
  have hreporting := reporting_working hr job log
  have hreport : (reporting job log (report.sink w)).failure = none := by rw [hreporting]
  have hcopy : ∀ o ∈ filtered, (copying log (o.sink w)).failure = none := by
    intro o ho
    rw [copying_working (hf o ho)]
  dsimp only
  rw [write_of_copied hreport hcopy, hreporting]
  exact ⟨rfl, rfl, rfl⟩

/-! ## Files -/

/-- What is written lies over the start of what the file held. -/
theorem at?_commit {t : FileTree} {o : Output} {old : Bytes}
    (h : ∀ p, o.place? = some p → t.at? p = some (.file old)) (taken : Bytes) (q : Place) :
    (o.commit t taken).at? q =
      if o.place? = some q then some (.file (taken ++ old.drop taken.length)) else t.at? q := by
  cases o with
  | stdout => rfl
  | file path p =>
    rw [Output.commit, FileTree.writeOver_of_file (h p rfl), FileTree.at?_put_file (h p rfl)]
    simp [Output.place?, eq_comm]

theorem here_commit (t : FileTree) (o : Output) (taken : Bytes) :
    (o.commit t taken).here = t.here := by
  cases o with
  | stdout => rfl
  | file path p =>
    dsimp only [Output.commit, FileTree.writeOver]
    split
    · rfl
    · rfl

theorem at?_commitCopy {t : FileTree} {filtered : Option Output} {old : Bytes}
    (h : ∀ p, copyPlace? filtered = some p → t.at? p = some (.file old)) (taken : Bytes)
    (q : Place) :
    (commitCopy t taken filtered).at? q =
      if copyPlace? filtered = some q then some (.file (taken ++ old.drop taken.length))
      else t.at? q := by
  cases filtered with
  | none => rfl
  | some o => exact at?_commit h taken q

theorem here_commitCopy (t : FileTree) (filtered : Option Output) (taken : Bytes) :
    (commitCopy t taken filtered).here = t.here := by
  cases filtered with
  | none => rfl
  | some o => exact here_commit t o taken

end MismatchLog.Run
