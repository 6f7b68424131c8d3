import MismatchLog.Proofs.Run.Ending

/-!
# What a failed run leaves

A run can fail while it opens, while it truncates, or while it writes:

* `failed_opening_keeps_files`: if something cannot be opened, the first such thing is reported, and
  no file changes;
* `failed_truncation_empties_report`: the outputs are truncated one after the other, so a copy that
  cannot be truncated comes too late for the report, and
  `failed_truncation_keeps_all_but_report` says that nothing else is lost.
-/

namespace MismatchLog.Run

open FileTree (Grows)

/-! ## Something cannot be opened -/

theorem firstFailure_iff {w : World} {job : Job} {err : RunError} :
    FirstFailure w job err ↔ (run w job).outcome = .error err ∧ err.exitCode ∈ [2, 3, 4] := by
  constructor
  · intro h
    refine ⟨outcome_of_firstFailure h, ?_⟩
    cases h with
    | input => simp [RunError.exitCode]
    | report => simp [RunError.exitCode]
    | filtered => simp [RunError.exitCode]
  · rintro ⟨houtcome, hcode⟩
    have hend := run_ending w job
    rw [houtcome] at hend
    -- after opening every failure has the code 1
    cases hend with
    | unopened hfirst => exact hfirst
    | untruncated => simp [RunError.exitCode] at hcode
    | halfTruncated => simp [RunError.exitCode] at hcode
    | unwritten => simp [RunError.exitCode] at hcode
    | halfWritten => simp [RunError.exitCode] at hcode

theorem grows_of_firstFailure {w : World} {job : Job} {err : RunError}
    (h : FirstFailure w job err) : Grows w.tree (run w job).tree := by
  obtain ⟨t, heffect, ht⟩ := run_of_firstFailure h
  rw [heffect.tree]
  cases h with
  | input => exact ht ▸ .refl _
  | report => exact ht ▸ .refl _
  | filtered =>
    obtain ⟨report, hopens⟩ := ht
    exact hopens.grows

/-- **A run that cannot open something leaves every file as it was.** It fails with the first thing
that it cannot get, in the order input, report, copy, where the copy is tried in the tree that the
opening of the report left. Nothing reaches the standard output. If the copy fails, a report's file
that was not there is there now and empty; apart from that the tree is what it was. -/
theorem failed_opening_keeps_files (w : World) (job : Job) :
    (∀ err, FirstFailure w job err ↔
      (run w job).outcome = .error err ∧ err.exitCode ∈ [2, 3, 4]) ∧
    ∀ err, FirstFailure w job err →
      (run w job).stdout = [] ∧
      (∀ path e, err = .inputOpen path e → err.exitCode = 2 ∧ (run w job).tree = w.tree) ∧
      (∀ path e, err = .reportOpen path e → err.exitCode = 3 ∧ (run w job).tree = w.tree) ∧
      (∀ path e, err = .filterOpen path e → err.exitCode = 4 ∧
        (run w job).tree.here = w.tree.here ∧
        ∀ q, (OpensAt w.tree job.report q ∧ w.tree.at? q = none →
            (run w job).tree.at? q = some (.file [])) ∧
          (¬ (OpensAt w.tree job.report q ∧ w.tree.at? q = none) →
            (run w job).tree.at? q = w.tree.at? q)) ∧
      (∀ q content, w.tree.at? q = some (.file content) →
        (run w job).tree.at? q = some (.file content)) ∧
      ∀ path content, w.tree.read path = .ok content →
        (run w job).tree.read path = .ok content := by
  refine ⟨fun err => firstFailure_iff, ?_⟩
  intro err h
  have hgrows := grows_of_firstFailure h
  obtain ⟨t, heffect, ht⟩ := run_of_firstFailure h
  refine ⟨heffect.stdout, ?_, ?_, ?_, fun q content => hgrows.kept, fun path content => hgrows.read⟩
  · rintro path e rfl
    exact ⟨rfl, heffect.tree.trans ht⟩
  · rintro path e rfl
    exact ⟨rfl, heffect.tree.trans ht⟩
  · rintro path e rfl
    obtain ⟨report, hopens⟩ := ht
    refine ⟨rfl, hgrows.here, ?_⟩
    rw [heffect.tree]
    exact hopens.at?

/-- A log, a report from the day before, and a device that has no length. -/
def desk : World :=
  ⟨⟨[(["log".toList], .file [0x0A]), (["old".toList], .file [0x2A]),
      (["dev".toList], .directory), (["dev".toList, "full".toList], .special .full)], []⟩,
    .ok [], .unbounded⟩

/-- The same with a directory as the standard input. -/
def deafDesk : World := { desk with stdin := .error .isDirectory }

/-- The copy is to go into a directory that the report's new file takes the place of. -/
def nestedJob : Job :=
  ⟨.file "log".toList, .file "new".toList, false, .text, some "new/copy".toList⟩

theorem nestedJob_fails :
    FirstFailure desk nestedJob (.filterOpen "new/copy".toList .notDirectory) :=
  .filtered rfl (.file rfl) rfl rfl

theorem failed_opening_keeps_files_nested :
    (FirstFailure desk ⟨.file "gone".toList, .stdout, false, .text, none⟩
        (.inputOpen "gone".toList .notFound) ∧
      (run desk ⟨.file "gone".toList, .stdout, false, .text, none⟩).tree = desk.tree) ∧
    (FirstFailure deafDesk ⟨.stdin, .file "old".toList, false, .text, none⟩
        (.inputOpen "<stdin>".toList .isDirectory) ∧
      (run deafDesk ⟨.stdin, .file "old".toList, false, .text, none⟩).outcome =
        .error (.inputOpen "<stdin>".toList .isDirectory) ∧
      (run deafDesk ⟨.stdin, .file "old".toList, false, .text, none⟩).tree = deafDesk.tree) ∧
    (FirstFailure desk ⟨.stdin, .file "old/new".toList, false, .text, none⟩
        (.reportOpen "old/new".toList .notDirectory) ∧
      (run desk ⟨.stdin, .file "old/new".toList, false, .text, none⟩).tree = desk.tree) ∧
    (run desk nestedJob).outcome = .error (.filterOpen "new/copy".toList .notDirectory) ∧
    (run desk nestedJob).stdout = [] ∧
    (OpensAt desk.tree nestedJob.report ["new".toList] ∧ desk.tree.at? ["new".toList] = none) ∧
    (run desk nestedJob).tree.at? ["new".toList] = some (.file []) ∧
    (run desk nestedJob).tree.at? ["old".toList] = some (.file [0x2A]) ∧
    desk.tree.read "old".toList = .ok [0x2A] ∧
    (run desk nestedJob).tree.read "old".toList = .ok [0x2A] := by
  have hinput : FirstFailure desk ⟨.file "gone".toList, .stdout, false, .text, none⟩
      (.inputOpen "gone".toList .notFound) := .input rfl
  have hstdin : FirstFailure deafDesk ⟨.stdin, .file "old".toList, false, .text, none⟩
      (.inputOpen "<stdin>".toList .isDirectory) := .input rfl
  have hreport : FirstFailure desk ⟨.stdin, .file "old/new".toList, false, .text, none⟩
      (.reportOpen "old/new".toList .notDirectory) := .report rfl rfl rfl
  have hnew : OpensAt desk.tree nestedJob.report ["new".toList] ∧
      desk.tree.at? ["new".toList] = none := ⟨⟨_, _, rfl, rfl⟩, rfl⟩
  obtain ⟨-, hunread, -⟩ := (failed_opening_keeps_files desk _).2 _ hinput
  obtain ⟨-, hdeaf, -⟩ := (failed_opening_keeps_files deafDesk _).2 _ hstdin
  have hsaid := ((failed_opening_keeps_files deafDesk _).1 _).mp hstdin
  obtain ⟨-, -, hunopened, -⟩ := (failed_opening_keeps_files desk _).2 _ hreport
  obtain ⟨hstdout, -, -, hcopy, hfiles, hreads⟩ :=
    (failed_opening_keeps_files desk nestedJob).2 _ nestedJob_fails
  have houtcome := ((failed_opening_keeps_files desk nestedJob).1 _).mp nestedJob_fails
  exact ⟨⟨hinput, (hunread _ _ rfl).2⟩, ⟨hstdin, hsaid.1, (hdeaf _ _ rfl).2⟩,
    ⟨hreport, (hunopened _ _ rfl).2⟩, houtcome.1, hstdout, hnew, ((hcopy _ _ rfl).2.2 _).1 hnew,
    hfiles _ _ rfl, rfl, hreads _ _ rfl⟩

/-! ## Something cannot be truncated -/

/-- The report's file is emptied before the copy's turns out not to have a length. -/
def deviceJob : Job :=
  ⟨.file "log".toList, .file "old".toList, false, .text, some "/dev/full".toList⟩

theorem failed_truncation_empties_report :
    ¬ ∀ (w : World) (job : Job) (op : Operation) (path : Text) (e : IoError),
      (run w job).outcome = .error (.io op path e) →
      (op = .truncateReport ∨ op = .truncateFiltered) →
      ∀ q content, w.tree.at? q = some (.file content) →
        (run w job).tree.at? q = some (.file content) := by
  intro h
  have hkept := h desk deviceJob .truncateFiltered "/dev/full".toList .invalidArgument rfl (.inr rfl)
    ["old".toList] [0x2A] rfl
  have hlost : (run desk deviceJob).tree.at? ["old".toList] = some (.file []) := rfl
  rw [hlost] at hkept
  cases hkept

/-- **A failed truncation costs no file but the report's.** If the report cannot be truncated every
file is as it was. If the copy cannot be, the report's file is empty, for it was truncated first,
and every other file is as it was. -/
theorem failed_truncation_keeps_all_but_report {w : World} {job : Job} {op : Operation}
    {path : Text} {e : IoError} (h : (run w job).outcome = .error (.io op path e))
    (hop : op = .truncateReport ∨ op = .truncateFiltered) {q : Place} {content : Bytes}
    (hq : w.tree.at? q = some (.file content)) :
    (op = .truncateReport → (run w job).tree.at? q = some (.file content)) ∧
    (op = .truncateFiltered →
      (OpensAt w.tree job.report q → (run w job).tree.at? q = some (.file [])) ∧
      (¬ OpensAt w.tree job.report q → (run w job).tree.at? q = some (.file content))) := by
  have hend := run_ending w job
  rw [h] at hend
  cases hend with
  | unopened hfirst => simpa [RunError.exitCode] using (firstFailure_iff.mp hfirst).2
  | untruncated hopened =>
    refine ⟨fun _ => hopened.grows.kept hq, ?_⟩
    intro hcopy
    exact absurd hcopy (by decide)
  | halfTruncated hopened htruncate =>
    obtain ⟨t₁, hreport, -⟩ := hopened.outputs
    refine ⟨fun hfirst => absurd hfirst (by decide), fun _ => ?_⟩
    rw [at?_truncate htruncate q, ← hreport.place?_eq_some_iff]
    refine ⟨fun hplace => if_pos hplace, fun hplace => ?_⟩
    rw [if_neg hplace, hopened.grows.kept hq]
  | halfWritten => exact absurd hop (by decide)

/-- The report goes to the device, and the copy over the report from the day before. -/
def swappedJob : Job :=
  ⟨.file "log".toList, .file "/dev/full".toList, false, .text, some "old".toList⟩

theorem failed_truncation_keeps_log :
    (run desk deviceJob).outcome =
      .error (.io .truncateFiltered "/dev/full".toList .invalidArgument) ∧
    OpensAt desk.tree deviceJob.report ["old".toList] ∧
    (run desk deviceJob).tree.at? ["old".toList] = some (.file []) ∧
    ¬ OpensAt desk.tree deviceJob.report ["log".toList] ∧
    (run desk deviceJob).tree.at? ["log".toList] = some (.file [0x0A]) ∧
    (run desk swappedJob).outcome =
      .error (.io .truncateReport "/dev/full".toList .invalidArgument) ∧
    (run desk swappedJob).tree.at? ["old".toList] = some (.file [0x2A]) := by
  have hcopy : (run desk deviceJob).outcome =
      .error (.io .truncateFiltered "/dev/full".toList .invalidArgument) := rfl
  have hfirst : (run desk swappedJob).outcome =
      .error (.io .truncateReport "/dev/full".toList .invalidArgument) := rfl
  have hold : desk.tree.at? ["old".toList] = some (.file [0x2A]) := rfl
  have hlog : desk.tree.at? ["log".toList] = some (.file [0x0A]) := rfl
  have hreport : OpensAt desk.tree deviceJob.report ["old".toList] := ⟨_, _, rfl, rfl⟩
  have hother : ¬ OpensAt desk.tree deviceJob.report ["log".toList] := by
    rintro ⟨path, t, hd, hopen⟩
    cases hd
    cases hopen
  refine ⟨hcopy, hreport, ?_, hother, ?_, hfirst, ?_⟩
  · exact ((failed_truncation_keeps_all_but_report hcopy (.inr rfl) hold).2 rfl).1 hreport
  · exact ((failed_truncation_keeps_all_but_report hcopy (.inr rfl) hlog).2 rfl).2 hother
  · exact (failed_truncation_keeps_all_but_report hfirst (.inl rfl) hold).1 rfl

end MismatchLog.Run
