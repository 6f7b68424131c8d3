import MismatchLog.Proofs.Report.Failure
import MismatchLog.Proofs.Session.Reporting
import MismatchLog.Proofs.Sink.Bounded

/-!
# A standard output that is full

* `render_eq_nil_iff`, `ofLog_entries_eq_empty_iff`: only a text report can be empty, and it is so
  for a log without a marked line;
* `failure_sendTo_full`, `kind_of_full`: anything at all that is handed over fails, and buffers
  decide at which stage, so of which kind the failure is;
* `EndsFull`: how a run ends whose report goes to such an output. Its files are truncated by then,
  and nothing is written to them unless the report was empty (`run_full`);
* `full_output_empties_copy`: what a session shows of that.
-/

namespace MismatchLog

/-! ## Empty reports -/

theorem Utf8.encode_eq_nil_iff {t : Text} : encode t = [] ↔ t = [] := by
  unfold encode
  rw [List.flatMap_eq_nil_iff]
  constructor
  · intro h
    cases t with
    | nil => rfl
    | cons c t => exact absurd (h c List.mem_cons_self) String.utf8EncodeChar_ne_nil
  · rintro rfl
    nofun

theorem Entry.toLine_ne_nil (counts : Bool) (e : Entry) : e.toLine counts ≠ [] := by
  cases counts <;> simp [toLine]

/-- Only a text report can be empty, and it is so without entries. -/
theorem Report.render_eq_nil_iff {format : Format} {counts : Bool} {t : Tally} :
    render format counts t = [] ↔ format = .text ∧ t.entries = #[] := by
  cases format with
  | text =>
    have hline := Entry.toLine_ne_nil counts
    simp only [render, textBody, List.flatMap_eq_nil_iff, true_and]
    constructor
    · intro h
      apply Array.toList_eq_nil_iff.mp
      exact List.eq_nil_iff_forall_not_mem.mpr fun e he => hline e (h e he)
    · intro h e he
      rw [h] at he
      cases he
  | json => simp [render]
  | csv =>
    have hheader : Csv.record header ≠ [] := by decide
    simp [render, records, Csv.document, hheader]

/-- A scan has entries exactly if it met a marked line. -/
theorem Scan.ofLog_entries_eq_empty_iff {log : Bytes} :
    (ofLog log).entries = #[] ↔ (ofLog log).markerLines = 0 := by
  constructor
  · intro h
    have htotal := (ofTexts_tallyOf (Line.texts log)).total
    rw [← ofLog, h] at htotal
    exact htotal.symm
  · exact entries_eq_empty

/-! ## The kind of the failure -/

/-- A sink without room fails a delivery of anything at all. -/
theorem Delivery.failure_sendTo_full (d : Delivery) (e : IoError) :
    (d.bytes = [] → (d.sendTo ⟨some 0, e, none⟩).failure = none) ∧
      (d.bytes ≠ [] → ∃ stage, (d.sendTo ⟨some 0, e, none⟩).failure = some (stage, e) ∧
        (stage = .body ↔ 0 < d.body.flatten.length)) := by
  rw [failure_sendTo_bounded]
  constructor
  · intro hnone
    have hbody : d.body.flatten = [] := (List.append_eq_nil_iff.mp hnone).1
    simp [hnone, hbody]
  · intro hsome
    have hpos : 0 < d.bytes.length := List.length_pos_iff.mpr hsome
    by_cases hbody : 0 < d.body.flatten.length
    · exact ⟨.body, by rw [if_pos hbody], iff_of_true rfl hbody⟩
    · exact ⟨.closing, by rw [if_neg hbody, if_pos hpos], iff_of_false nofun hbody⟩

namespace Report

/-- What is known of the kind of a failure when nothing can be written: it is the writer's own for
an array of objects that does not fit into a buffer, and the stream's for whatever fits. -/
structure KindOfFull (format : Format) (counts : Bool) (t : Tally) (kind : ReportError.Kind) :
    Prop where
  json : kind = .json ↔ format = .json ∧ Buffer.capacity < (Utf8.encode (jsonBody t)).length
  text : format = .text → kind = .io
  smallJson : format = .json → (Utf8.encode (jsonBody t)).length ≤ Buffer.capacity → kind = .io
  smallCsv : format = .csv → size .csv counts t ≤ Buffer.capacity → kind = .io

theorem length_of_mem_bytewise {t : Text} {p : Bytes} (h : p ∈ bytewise t) : p.length ≤ 1 := by
  obtain ⟨b, -, rfl⟩ := List.mem_map.mp h
  exact Nat.le_refl 1

theorem kind_of_full {format : Format} {counts : Bool} {t : Tally} {stage : Delivery.Stage}
    (h : stage = .body ↔
      0 < ((delivery format counts t).buffered Buffer.capacity).body.flatten.length) :
    KindOfFull format counts t (failureKind format stage) := by
  cases format with
  | text =>
    refine ⟨by simp [failureKind], fun _ => rfl, ?_, ?_⟩
    · rintro ⟨⟩
    · rintro ⟨⟩
  | json =>
    have hsmall : 1 < Buffer.capacity := by decide
    rw [Delivery.body_buffered_pos_iff hsmall fun p hp => length_of_mem_bytewise hp, delivery,
      flatten_bytewise] at h
    refine ⟨?_, by rintro ⟨⟩, ?_, by rintro ⟨⟩⟩
    · rw [← h]
      cases stage <;> simp [failureKind]
    · intro _ hle
      rw [← Nat.not_lt, ← h] at hle
      cases stage with
      | body => exact absurd rfl hle
      | closing => rfl
  | csv =>
    refine ⟨by cases stage <;> simp [failureKind], by rintro ⟨⟩, by rintro ⟨⟩, ?_⟩
    intro _ hle
    have hbody : (delivery .csv counts t).body = [] := handover.small.mpr hle
    cases stage with
    | body =>
      have hpos := h.mp rfl
      rw [Delivery.buffered, hbody] at hpos
      cases hpos
    | closing => rfl

end Report

/-! ## The run -/

namespace Run

theorem reportOf_eq_nil_iff {job : Job} {log : Bytes} :
    reportOf job log = [] ↔ job.format = .text ∧ (Scan.ofLog log).markerLines = 0 := by
  rw [reportOf, Utf8.encode_eq_nil_iff, Report.render_eq_nil_iff, Scan.ofLog_entries_eq_empty_iff]

/-- How a run ends that cannot write anything to the standard output. -/
structure EndsFull (t : FileTree) (job : Job) (log : Bytes) (e : IoError)
    (copyAt : Option Place) (r : Result) : Prop where
  stdout : r.stdout = []
  success : reportOf job log = [] → (∃ s, r.outcome = .ok s) ∧
    ∀ q, copyAt = some q → r.tree.at? q = some (.file (Filtered.copy log))
  failure : reportOf job log ≠ [] →
    (∃ kind, r.outcome = .error (.report ⟨kind, Destination.stdout.display, e⟩) ∧
      Report.KindOfFull job.format job.counts (Scan.ofLog log) kind) ∧
    ∀ q, copyAt = some q → r.tree.at? q = some (.file [])
  rest : ∀ q, copyAt ≠ some q → r.tree.at? q = t.at? q

/-- From empty files: either the report is empty, and the copy is written, or nothing is. -/
theorem write_full {w : World} {job : Job} {log : Bytes} {e : IoError} {t t' : FileTree}
    {filtered : Option Output} (hfull : w.stdout = ⟨some 0, e, none⟩)
    (hworks : ∀ o ∈ filtered, (o.sink w).Works)
    (hemptied : Emptied t t' none (copyPlace? filtered)) :
    EndsFull t job log e (copyPlace? filtered) (write w job log t' .stdout filtered) := by
  have hempty : ∀ q, copyPlace? filtered = some q → t'.at? q = some (.file []) := by
    intro q hq
    rw [hemptied.found q, if_pos (.inr hq)]
  have hkept : ∀ q, copyPlace? filtered ≠ some q → t'.at? q = t.at? q := by
    intro q hq
    rw [hemptied.found q, if_neg]
    rintro (hnone | hcopy)
    · cases hnone
    · exact hq hcopy
  have hsink : Output.stdout.sink w = ⟨some 0, e, none⟩ := hfull
  have htaken : (reporting job log (Output.stdout.sink w)).taken = [] := by
    rw [hsink, reporting, Delivery.taken_sendTo_bounded, List.take_zero]
  obtain ⟨hthrough, hfails⟩ := Delivery.failure_sendTo_full
    ((Report.delivery job.format job.counts (Scan.ofLog log)).buffered Buffer.capacity) e
  rw [bytes_reporting, ← reporting, ← hsink] at hthrough hfails
  have hcopied : ∀ o ∈ filtered, (copying log (o.sink w)).failure = none := by
    intro o ho
    rw [copying_working (hworks o ho)]
  by_cases hnone : reportOf job log = []
  · rw [write_of_copied (hthrough hnone) hcopied, htaken]
    refine ⟨rfl, fun _ => ⟨⟨_, rfl⟩, ?_⟩, fun hsome => absurd hnone hsome, ?_⟩
    · intro q hq
      show (commitCopy t' _ filtered).at? q = _
      rw [at?_commitCopy hempty, if_pos hq, List.drop_nil, List.append_nil]
    · intro q hq
      show (commitCopy t' _ filtered).at? q = _
      rw [at?_commitCopy hempty, if_neg hq, hkept q hq]
  · obtain ⟨stage, hfailure, hstage⟩ := hfails hnone
    rw [write_of_unreported hfailure, htaken]
    have hkind := Report.kind_of_full hstage
    refine ⟨rfl, fun h => absurd h hnone, fun _ => ⟨?_, hempty⟩, hkept⟩
    exact ⟨Report.failureKind job.format stage, rfl, hkind⟩

/-- The log is read and the copy's file truncated before the report is found not to go through. -/
theorem run_full {w : World} {job : Job} {log : Bytes} {e : IoError} {copyAt : Option Place}
    (hfull : w.stdout = ⟨some 0, e, none⟩) (hreport : job.report = .stdout)
    (hread : readInput w job.input = .ok log) (hcopy : GoesCopy w.tree job.filtered copyAt)
    (hfile : ∀ p, copyAt = some p → (w.file p).Works) :
    EndsFull w.tree job log e copyAt (run w job) := by
  have hgoes : Goes w.tree job.report none := by
    rw [hreport]
    exact .stdout
  obtain ⟨output, filtered, t, t', hopened, hplace, rfl, hemptied, heffect⟩ :=
    run_of_goes hread hgoes hcopy
  obtain ⟨t₁, hopens, hopens'⟩ := hopened.outputs
  rw [hreport] at hopens
  cases hopens with
  | stdout =>
    have hends : EndsFull w.tree job log e (copyPlace? filtered) _ :=
      write_full hfull (hopens'.works hfile) hemptied
    exact ⟨heffect.stdout.trans hends.stdout,
      by rw [heffect.outcome, heffect.tree]; exact hends.success,
      by rw [heffect.outcome, heffect.tree]; exact hends.failure,
      by rw [heffect.tree]; exact hends.rest⟩

end Run

/-! ## The session -/

namespace Session

/-- The job that a request and the settings it looks at ask for. -/
def jobOf (env : Environment) (w : World) (request : CommandLine.Request) : Job :=
  request.job (Settings.load w.tree (settingsPath env request).1).1

section
variable {env : Environment} {w : World} {args : List Text} {request : CommandLine.Request}
  {log : Bytes} {e : IoError} {copyAt : Option Place}

/-- **A session with a full standard output fails, and leaves the copy's file empty.** Let its
report go to the standard output, which refuses every write, the log be readable and the copy's
file, if any, be one that can be opened and takes what is written to it. Only a text report of a log
without a marked line is empty; then nothing has to be written, the session succeeds and the copy is
whole. Any other report fails with exit code 1. The failure is that of the array's writer if the
array alone does not fit into the buffer, and that of the stream for a text, for an array that fits
and for records that fit. The copy's file is empty by then, whatever it held before and even if it
is the log. All other files are as they were. A filter for events that is torn ends the session
before all of this. -/
theorem full_output_empties_copy (hread : CommandLine.read args = .ok request)
    (hreport : (jobOf env w request).report = .stdout) (hfull : w.stdout = ⟨some 0, e, none⟩)
    (hlog : Run.readInput w (jobOf env w request).input = .ok log)
    (hcopy : Run.GoesCopy w.tree (jobOf env w request).filtered copyAt)
    (hfile : ∀ p, copyAt = some p → (w.file p).Works) :
    let job := jobOf env w request
    let tally := Scan.ofLog log
    let report := Utf8.encode (Report.render job.format job.counts tally)
    let session := run env w args
    (report = [] ↔ job.format = .text ∧ tally.markerLines = 0) ∧
    (¬ Torn env →
      (session.exitCode = 0 ↔ report = []) ∧ session.stdout = [] ∧
      (report = [] → session.complaint = none ∧
        ∀ q, copyAt = some q → session.tree.at? q = some (.file (Filtered.copy log))) ∧
      (report ≠ [] → session.exitCode = 1 ∧
        (∃ kind, Report.KindOfFull job.format job.counts tally kind ∧
          (Run.run w job).outcome = .error (.report ⟨kind, Destination.stdout.display, e⟩) ∧
          session.complaint = some ("Error: ".toList ++
            (RunError.report ⟨kind, Destination.stdout.display, e⟩).message)) ∧
        ∀ q, copyAt = some q → session.tree.at? q = some (.file [])) ∧
      ∀ q, copyAt ≠ some q → session.tree.at? q = w.tree.at? q) ∧
    (Torn env → session = broken w) := by
  dsimp only
  have hends := Run.run_full hfull hreport hlog hcopy hfile
  refine ⟨Run.reportOf_eq_nil_iff, ?_, ?_⟩
  · intro hwhole
    have hreports : Reports (Run.run w (jobOf env w request)) (run env w args) := by
      rw [run_of_read hread]
      exact scan_of_not_torn hwhole w request
    refine ⟨?_, hreports.stdout.trans hends.stdout, ?_, ?_, ?_⟩
    · rw [hreports.success]
      constructor
      · rintro ⟨s, hs⟩
        by_contra hsome
        obtain ⟨⟨kind, houtcome, -⟩, -⟩ := hends.failure hsome
        rw [hs] at houtcome
        cases houtcome
      · exact fun hnone => (hends.success hnone).1
    · intro hnone
      obtain ⟨⟨s, hs⟩, hheld⟩ := hends.success hnone
      refine ⟨?_, by rwa [hreports.tree]⟩
      by_contra hsaid
      obtain ⟨text, htext⟩ := Option.ne_none_iff_exists'.mp hsaid
      obtain ⟨error, herror, -⟩ := (hreports.complaint text).mp htext
      rw [hs] at herror
      cases herror
    · intro hsome
      obtain ⟨⟨kind, houtcome, hkind⟩, hheld⟩ := hends.failure hsome
      exact ⟨hreports.failure _ houtcome,
        ⟨kind, hkind, houtcome, (hreports.complaint _).mpr ⟨_, houtcome, rfl⟩⟩,
        by rwa [hreports.tree]⟩
    · rw [hreports.tree]
      exact hends.rest
  · intro htorn
    rw [run_of_read hread]
    exact scan_of_torn htorn w request

end

/-- The shelf with a standard output that has no room. -/
def fullShelf : World := { shelf with sinks := .full }

/-- The log is to be filtered in place. -/
def tidying : List Text :=
  ["log".toList, "-F".toList, "./log".toList, "--config".toList, "conf".toList]

def tidyingRequest : CommandLine.Request :=
  ⟨"log".toList, some "log".toList, none, some "./log".toList, none, some "conf".toList, none,
    false⟩

theorem jobOf_tidying (env : Environment) : jobOf env fullShelf tidyingRequest =
    ⟨.file "log".toList, .stdout, true, .json, some "./log".toList⟩ := by
  have hload : (Settings.load fullShelf.tree "conf".toList).1 = (Settings.ofFields shelfFields).1 :=
    Settings.load_of_declares shelf_declares
  show tidyingRequest.job (Settings.load fullShelf.tree "conf".toList).1 = _
  rw [hload]
  rfl

/-- An array is never empty, so the log is lost. -/
theorem full_output_empties_copy_shelf :
    CommandLine.read tidying = .ok tidyingRequest ∧
    ¬ Torn ⟨home, none⟩ ∧
    (fullShelf.file ["log".toList]).Works ∧
    (run ⟨home, none⟩ fullShelf tidying).exitCode = 1 ∧
    (run ⟨home, none⟩ fullShelf tidying).tree.at? ["log".toList] = some (.file []) := by
  have hread : CommandLine.read tidying = .ok tidyingRequest := rfl
  have hwhole : ¬ Torn ⟨home, none⟩ := not_torn_of_one_byte_each nofun
  have hjob := jobOf_tidying ⟨home, none⟩
  have hlog : Run.readInput fullShelf (jobOf ⟨home, none⟩ fullShelf tidyingRequest).input =
      .ok shelfLog := by
    rw [hjob]
    rfl
  have hcopy : Run.GoesCopy fullShelf.tree (jobOf ⟨home, none⟩ fullShelf tidyingRequest).filtered
      (some ["log".toList]) := by
    rw [hjob]
    exact .wanted (.file ⟨_, rfl, shelfLog, rfl⟩)
  have hfile : ∀ p, some ["log".toList] = some p → (fullShelf.file p).Works :=
    fun _ _ => Sink.works_unbounded
  obtain ⟨hempty, hsession, -⟩ :=
    @full_output_empties_copy ⟨home, none⟩ fullShelf _ _ _ _ _ hread rfl rfl hlog hcopy hfile
  obtain ⟨-, -, -, hfails, -⟩ := hsession hwhole
  rw [hjob] at hempty hfails
  obtain ⟨hcode, -, hheld⟩ := hfails fun hnone => nomatch (hempty.mp hnone).1
  exact ⟨hread, hwhole, hfile _ rfl, hcode, hheld _ rfl⟩

/-- A log without a marked line, and a standard output without room. -/
def quietWorld : World :=
  ⟨⟨[(["log".toList], .file (Utf8.encode "ok\n".toList))], []⟩, .ok [], .full⟩

def copying : List Text :=
  ["log".toList, "-F".toList, "kept".toList, "--config".toList, "none".toList]

def copyingRequest : CommandLine.Request :=
  ⟨"log".toList, some "log".toList, none, some "kept".toList, none, some "none".toList, none, false⟩

theorem jobOf_copying (env : Environment) : jobOf env quietWorld copyingRequest =
    ⟨.file "log".toList, .stdout, false, .text, some "kept".toList⟩ := by
  have hload : (Settings.load quietWorld.tree "none".toList).1 = .default :=
    Settings.load_of_unusable (.missing rfl)
  show copyingRequest.job (Settings.load quietWorld.tree "none".toList).1 = _
  rw [hload]
  rfl

/-- With a filter that is torn a session fails although its report is empty. -/
theorem torn_filter_fails_empty_report :
    ¬ ∀ (env : Environment) (w : World) (args : List Text) (request : CommandLine.Request)
        (log : Bytes) (e : IoError) (copyAt : Option Place),
      CommandLine.read args = .ok request → (jobOf env w request).report = .stdout →
      w.stdout = ⟨some 0, e, none⟩ → Run.readInput w (jobOf env w request).input = .ok log →
      Run.GoesCopy w.tree (jobOf env w request).filtered copyAt →
      (∀ p, copyAt = some p → (w.file p).Works) →
      ((run env w args).exitCode = 0 ↔ Utf8.encode (Report.render (jobOf env w request).format
        (jobOf env w request).counts (Scan.ofLog log)) = []) := by
  intro h
  have hread : CommandLine.read copying = .ok copyingRequest := rfl
  have hjob := jobOf_copying tornFilter
  have hlog : Run.readInput quietWorld (jobOf tornFilter quietWorld copyingRequest).input =
      .ok (Utf8.encode "ok\n".toList) := by
    rw [hjob]
    rfl
  have hcopy : Run.GoesCopy quietWorld.tree
      (jobOf tornFilter quietWorld copyingRequest).filtered (some ["kept".toList]) := by
    rw [hjob]
    exact .wanted (.file ⟨_, rfl, [], rfl⟩)
  have hfile : ∀ p, some ["kept".toList] = some p → (quietWorld.file p).Works :=
    fun _ _ => Sink.works_unbounded
  have hcode := h tornFilter quietWorld copying _ _ _ _ hread rfl rfl hlog hcopy hfile
  rw [run_of_read hread, scan_of_torn tornFilter_torn, hjob] at hcode
  have hnone : Run.reportOf ⟨.file "log".toList, .stdout, false, .text, some "kept".toList⟩
      (Utf8.encode "ok\n".toList) = [] := by
    rw [Run.reportOf_eq_nil_iff, ← Filtered.removed_eq]
    exact ⟨rfl, by decide⟩
  cases hcode.mpr hnone

end Session

end MismatchLog
