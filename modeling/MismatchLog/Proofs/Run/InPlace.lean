import MismatchLog.Proofs.Filtered.Idempotence
import MismatchLog.Proofs.Run.Overwriting
import MismatchLog.Proofs.Scan.LineEnds

/-!
# Filtering a log in place

A job may name the log as the destination of its copy (`InPlace`). One run of it puts the copy where
the log was and keeps everything else that the job needs (`InPlace.run`, `InPlace.next`), so it can
be run again and again (`InPlace.afterRuns`); and the copy of a copy is the copy, so from the second
run on there is nothing to report (`filtering_in_place_again`).
-/

namespace MismatchLog.Run

open FileTree (SameDirectories)

/-! ## One run -/

/-- The copy goes to the log itself, and the report to the standard output or to another file. -/
structure InPlace (t : FileTree) (job : Job) (p : Place) (reportAt : Option Place) (log : Bytes) :
    Prop where
  input : ∃ path, job.input = .file path ∧ t.Names path p
  held : t.at? p = some (.file log)
  copy : GoesCopy t job.filtered (some p)
  report : Goes t job.report reportAt
  apart : reportAt ≠ some p

/-- The report of a tally is on the standard output, or in the file of its place. -/
structure ReportsTo (r : Result) (job : Job) (reportAt : Option Place) (tally : Tally) : Prop where
  stdout : r.stdout =
    if job.report = .stdout then Utf8.encode (Report.render job.format job.counts tally) else []
  file : ∀ q, reportAt = some q →
    r.tree.at? q = some (.file (Utf8.encode (Report.render job.format job.counts tally)))

theorem Goes.of_sameDirectories {t t' : FileTree} {d : Destination} {place : Option Place}
    (h : Goes t d place) (hdirectories : SameDirectories t t') (hregular : Regular t' place) :
    Goes t' d place := by
  cases h with
  | stdout => exact .stdout
  | file hopens =>
    obtain ⟨content, hat⟩ := hregular _ rfl
    exact .file (hopens.of_sameDirectories hdirectories hat)

theorem GoesCopy.of_sameDirectories {t t' : FileTree} {filtered : Option Text}
    {place : Option Place} (h : GoesCopy t filtered place) (hdirectories : SameDirectories t t')
    (hregular : Regular t' place) : GoesCopy t' filtered place := by
  cases h with
  | unwanted => exact .unwanted
  | wanted hgoes => exact .wanted (hgoes.of_sameDirectories hdirectories hregular)

theorem GoesCopy.opensFile {t : FileTree} {filtered : Option Text} {p : Place}
    (h : GoesCopy t filtered (some p)) : ∃ path, filtered = some path ∧ t.OpensFile path p := by
  cases h with
  | wanted hgoes =>
    cases hgoes with
    | file hopens => exact ⟨_, rfl, hopens⟩

section
variable {w : World} {job : Job} {p : Place} {reportAt : Option Place} {log : Bytes}

theorem InPlace.read (h : InPlace w.tree job p reportAt log) :
    readInput w job.input = .ok log := by
  obtain ⟨path, hinput, hnames⟩ := h.input
  obtain ⟨path', -, hopens⟩ := h.copy.opensFile
  rw [hinput]
  exact hnames.read hopens h.held

/-- What one run does: it succeeds, the copy is where the log was, the report is where it goes to,
and all else is as before. -/
theorem InPlace.run (h : InPlace w.tree job p reportAt log)
    (hsinks : SinksWork w job reportAt (some p)) :
    (run w job).outcome = .ok (summary (Scan.ofLog log) (some (Filtered.stats log))) ∧
      ReportsTo (run w job) job reportAt (Scan.ofLog log) ∧
      (run w job).tree.at? p = some (.file (Filtered.copy log)) ∧
      (∀ q, q ≠ p → reportAt ≠ some q → (run w job).tree.at? q = w.tree.at? q) ∧
      SameDirectories w.tree (run w job).tree := by
  obtain ⟨houtcome, hstdout, output, filtered, t, t', hopened, rfl, hcopyAt, hemptied, htree⟩ :=
    run_of_sinksWork h.read h.report h.copy hsinks
  rw [← hcopyAt] at hemptied
  have hwritten := hemptied.written (reportOf job log) (Filtered.copy log)
  rw [← htree, hcopyAt] at hwritten
  obtain ⟨path, hwanted, -⟩ := h.copy.opensFile
  rw [hwanted] at houtcome
  refine ⟨houtcome, ⟨hstdout, ?_⟩, ?_, ?_, hopened.sameDirectories⟩
  · intro q hq
    refine hwritten.onlyReport q hq ?_
    rintro ⟨⟩
    exact h.apart hq
  · exact hwritten.onlyCopy p rfl h.apart
  · intro q hq hq'
    refine hwritten.rest q hq' ?_
    rintro ⟨⟩
    exact hq rfl

/-- The next run finds all that this one found, with the copy in place of the log. -/
theorem InPlace.next (h : InPlace w.tree job p reportAt log)
    (hsinks : SinksWork w job reportAt (some p)) :
    InPlace (Run.run w job).tree job p reportAt (Filtered.copy log) := by
  obtain ⟨-, hreports, hheld, -, hdirectories⟩ := h.run hsinks
  obtain ⟨path, hinput, hnames⟩ := h.input
  refine ⟨⟨path, hinput, (FileTree.names_of_sameDirectories hdirectories).mpr hnames⟩, hheld,
    h.copy.of_sameDirectories hdirectories ?_, h.report.of_sameDirectories hdirectories ?_,
    h.apart⟩
  · rintro q ⟨⟩
    exact ⟨_, hheld⟩
  · intro q hq
    exact ⟨_, hreports.file q hq⟩

/-! ## Many runs -/

/-- What a run finds after this many runs of the same job. -/
def afterRuns (w : World) (job : Job) : Nat → World
  | 0 => w
  | n + 1 => after (afterRuns w job n) job

theorem sinks_afterRuns (w : World) (job : Job) (n : Nat) :
    (afterRuns w job n).sinks = w.sinks := by
  induction n with
  | zero => rfl
  | succ n ih => exact ih

/-- Runs leave the sinks as they were. -/
theorem SinksWork.afterRuns (h : SinksWork w job reportAt (some p)) (n : Nat) :
    SinksWork (afterRuns w job n) job reportAt (some p) := by
  obtain ⟨hstdout, hreport, hcopy⟩ := h
  simp only [World.stdout, World.file, ← sinks_afterRuns w job n] at hstdout hreport hcopy
  exact ⟨hstdout, hreport, hcopy⟩

/-- By induction on the runs: the copy of the copy is the copy. -/
theorem InPlace.afterRuns (h : InPlace w.tree job p reportAt log)
    (hsinks : SinksWork w job reportAt (some p)) (n : Nat) :
    InPlace (afterRuns w job (n + 1)).tree job p reportAt (Filtered.copy log) := by
  induction n with
  | zero => exact h.next hsinks
  | succ n ih =>
    have hnext := ih.next (hsinks.afterRuns (n + 1))
    rwa [Filtered.copy_copy] at hnext

/-- No run changes anything but the log and the report's file. -/
theorem InPlace.rest_afterRuns (h : InPlace w.tree job p reportAt log)
    (hsinks : SinksWork w job reportAt (some p)) (n : Nat) {q : Place} (hq : q ≠ p)
    (hq' : reportAt ≠ some q) : (Run.afterRuns w job n).tree.at? q = w.tree.at? q := by
  induction n with
  | zero => rfl
  | succ n ih =>
    obtain ⟨held, hheld⟩ : ∃ held, InPlace (Run.afterRuns w job n).tree job p reportAt held := by
      cases n with
      | zero => exact ⟨log, h⟩
      | succ n => exact ⟨_, h.afterRuns hsinks n⟩
    obtain ⟨-, -, -, hrest, -⟩ := hheld.run (hsinks.afterRuns n)
    exact (hrest q hq hq').trans ih

end

/-! ## Nothing left to report -/

theorem summary_copy (log : Bytes) :
    summary (Scan.ofLog (Filtered.copy log)) (some (Filtered.stats (Filtered.copy log))) =
      ⟨(Filtered.stats log).kept, 0, 0, 0, some ⟨(Filtered.stats log).kept, 0⟩⟩ := by
  obtain ⟨hscanned, hmarked, hentries⟩ := Filtered.scan_copy log
  simp [summary, hscanned, hmarked, Tally.size, Tally.rawLineEntries, hentries,
    Filtered.stats_copy]

/-- The report of a copy is that of no entries at all. -/
theorem render_copy (format : Format) (counts : Bool) (log : Bytes) :
    Report.render format counts (Scan.ofLog (Filtered.copy log)) =
      Report.render format counts .empty := by
  obtain ⟨hscanned, hmarked, hentries⟩ := Filtered.scan_copy log
  have halike : Scan.Alike (Scan.ofLog (Filtered.copy log))
      { Tally.empty with linesScanned := (Filtered.stats log).kept } :=
    ⟨hscanned, hmarked, hentries⟩
  rw [halike.render]
  cases format with
  | text => rfl
  | json => rfl
  | csv => rfl

/-- **A log can be filtered in place any number of times.** Let a job read a regular file and write
its copy to the same file, under whatever names, and its report to a working standard output or to
another regular file, one that is there or one that can be made, and let the files take what is
written to them. Every run of it succeeds, and the file holds the copy of the log as it was at first
after each of them. The first run removes the marked lines; each later one scans what the first one
kept, finds nothing in it, removes nothing and gives the report of no entries. No other file is
touched. -/
theorem filtering_in_place_again {w : World} {job : Job} {p : Place} {reportAt : Option Place}
    {log : Bytes} (h : InPlace w.tree job p reportAt log)
    (hsinks : SinksWork w job reportAt (some p)) :
    let tally := Scan.ofLog log
    let kept := (Filtered.stats log).kept
    (run w job).outcome = .ok {
      linesScanned := tally.linesScanned
      markerLines := tally.markerLines
      uniqueEntries := tally.entries.size
      rawLineEntries := tally.rawLineEntries
      filter := some ⟨kept, tally.markerLines⟩ } ∧
    ReportsTo (run w job) job reportAt tally ∧
    ∀ n,
      (run (afterRuns w job (n + 1)) job).outcome = .ok {
        linesScanned := kept
        markerLines := 0
        uniqueEntries := 0
        rawLineEntries := 0
        filter := some ⟨kept, 0⟩ } ∧
      ReportsTo (run (afterRuns w job (n + 1)) job) job reportAt .empty ∧
      (afterRuns w job (n + 1)).tree.at? p = some (.file (Filtered.copy log)) ∧
      ∀ q, q ≠ p → reportAt ≠ some q → (afterRuns w job (n + 1)).tree.at? q = w.tree.at? q := by
  dsimp only
  obtain ⟨houtcome, hreports, -⟩ := h.run hsinks
  refine ⟨?_, hreports, ?_⟩
  · have hstats : Filtered.stats log =
        ⟨(Filtered.stats log).kept, (Scan.ofLog log).markerLines⟩ := by
      rw [← Filtered.removed_eq]
    rw [houtcome, hstats]
    rfl
  · intro n
    have hlater := h.afterRuns hsinks n
    obtain ⟨houtcome', hreports', -⟩ := hlater.run (hsinks.afterRuns (n + 1))
    refine ⟨?_, ⟨?_, ?_⟩, hlater.held, fun q hq hq' => h.rest_afterRuns hsinks (n + 1) hq hq'⟩
    · rw [houtcome', summary_copy]
    · rw [hreports'.stdout, render_copy]
    · intro q hq
      rw [hreports'.file q hq, render_copy]

/-- The report goes to a file that is not there yet, the copy to the log under another name. -/
def tidyJob : Job :=
  ⟨.file "log".toList, .file "report".toList, true, .csv, some "./log".toList⟩

theorem filtering_in_place_again_twice :
    InPlace fileWorld.tree tidyJob ["log".toList] (some ["report".toList]) twoLines ∧
    SinksWork fileWorld tidyJob (some ["report".toList]) (some ["log".toList]) ∧
    (∃ s, (run fileWorld tidyJob).outcome = .ok s ∧ s.filter = some ⟨1, 1⟩) ∧
    (run (afterRuns fileWorld tidyJob 1) tidyJob).outcome = .ok ⟨1, 0, 0, 0, some ⟨1, 0⟩⟩ ∧
    (afterRuns fileWorld tidyJob 2).tree.at? ["report".toList] =
      some (.file (Utf8.encode "count,dut,ref,line\n".toList)) ∧
    (afterRuns fileWorld tidyJob 2).tree.at? ["log".toList] =
      some (.file (Utf8.encode "ok".toList)) := by
  have hinplace : InPlace fileWorld.tree tidyJob ["log".toList] (some ["report".toList])
      twoLines :=
    ⟨⟨_, rfl, [], _, rfl, rfl⟩, rfl, .wanted (.file ⟨_, rfl, twoLines, rfl⟩),
      .file ⟨_, rfl, [], rfl⟩, by decide⟩
  have hkept : (Filtered.stats twoLines).kept = 1 := by decide
  have hmarked : (Scan.ofLog twoLines).markerLines = 1 := by
    rw [← Filtered.removed_eq]
    decide
  have hcopy : Filtered.copy twoLines = Utf8.encode "ok".toList := by decide
  have hsinks : SinksWork fileWorld tidyJob (some ["report".toList]) (some ["log".toList]) :=
    .of_unbounded rfl _ _ _
  obtain ⟨hfirst, -, hlater⟩ := filtering_in_place_again hinplace hsinks
  obtain ⟨hsecond, hreports, -, -⟩ := hlater 0
  obtain ⟨-, -, hheld, -⟩ := hlater 1
  rw [hkept] at hfirst hsecond
  rw [hmarked] at hfirst
  rw [hcopy] at hheld
  exact ⟨hinplace, hsinks, ⟨_, hfirst, rfl⟩, hsecond, hreports.file _ rfl, hheld⟩

end MismatchLog.Run
