import MismatchLog.Proofs.Run.Summary
import MismatchLog.Proofs.Run.Truncation

/-!
# What a successful run leaves

The paths of a run may name the same file in any combination. All that counts is the place at which
each destination opens (`Goes`, `GoesCopy`):

* `run_of_goes`: with readable input and regular files a run opens everything, empties its files and
  writes; nothing else in the tree has changed then (`Emptied`);
* `run_of_sinksWork`: it succeeds if the sinks behind its outputs take everything (`SinksWork`);
* `Written`: what is where after the report and the copy were written, to two files or to one;
* `run_writes_report_and_copy`: so a run leaves the tree, and succeeds, whatever its paths.
-/

namespace MismatchLog.Run

open FileTree (OpensFile)

/-! ## Places -/

/-- A report goes to the standard output, or to the regular file of a place. -/
inductive Goes (t : FileTree) : Destination → Option Place → Prop
  | stdout : Goes t .stdout none
  | file {path : Text} {p : Place} (opens : t.OpensFile path p) : Goes t (.file path) (some p)

/-- A copy goes to the regular file of a place, if it is wanted. -/
inductive GoesCopy (t : FileTree) : Option Text → Option Place → Prop
  | unwanted : GoesCopy t none none
  | wanted {path : Text} {place : Option Place} (goes : Goes t (.file path) place) :
      GoesCopy t (some path) place

/-- An output is a regular file, or no file at all. -/
def Regular (t : FileTree) (place : Option Place) : Prop :=
  ∀ p, place = some p → ∃ content, t.at? p = some (.file content)

theorem Goes.of_grows {t t' : FileTree} {d : Destination} {place : Option Place}
    (h : Goes t d place) (hgrows : FileTree.Grows t t') : Goes t' d place := by
  cases h with
  | stdout => exact .stdout
  | file hopens => exact .file (hopens.of_grows hgrows)

theorem Regular.of_grows {t t' : FileTree} {place : Option Place} (h : Regular t place)
    (hgrows : FileTree.Grows t t') : Regular t' place := by
  intro p hp
  obtain ⟨content, hat⟩ := h p hp
  exact ⟨content, hgrows.kept hat⟩

theorem Goes.opens {t : FileTree} {d : Destination} {place : Option Place} (h : Goes t d place) :
    ∃ o t', Opens t d o t' ∧ o.place? = place ∧ Regular t' place := by
  cases h with
  | stdout => exact ⟨.stdout, t, .stdout, rfl, nofun⟩
  | file hopens =>
    obtain ⟨t', hopen, content, hat⟩ := hopens
    refine ⟨_, t', .file hopen, rfl, ?_⟩
    rintro p ⟨⟩
    exact ⟨content, hat⟩

theorem GoesCopy.opens {t : FileTree} {filtered : Option Text} {place : Option Place}
    (h : GoesCopy t filtered place) {t' : FileTree} (hgrows : FileTree.Grows t t') :
    ∃ o t'', OpensCopy t' filtered o t'' ∧ copyPlace? o = place ∧ Regular t'' place := by
  cases h with
  | unwanted => exact ⟨none, t', .unwanted, rfl, nofun⟩
  | wanted hgoes =>
    obtain ⟨o, t'', hopens, hplace, hregular⟩ := (hgoes.of_grows hgrows).opens
    exact ⟨some o, t'', .wanted hopens, hplace, hregular⟩

/-- Opening changes nothing but the place of the output. -/
theorem Opens.at?_of_ne {t t' : FileTree} {d : Destination} {o : Output} (h : Opens t d o t')
    {q : Place} (hq : o.place? ≠ some q) : t'.at? q = t.at? q :=
  (h.at? q).2 fun hnew => hq (h.place?_eq_some_iff.mpr hnew.1)

theorem OpensCopy.at?_of_ne {t t' : FileTree} {filtered : Option Text} {o : Option Output}
    (h : OpensCopy t filtered o t') {q : Place} (hq : copyPlace? o ≠ some q) :
    t'.at? q = t.at? q := by
  cases h with
  | unwanted => rfl
  | wanted hopens => exact hopens.at?_of_ne hq

/-! ## Empty files -/

/-- The files of two places are empty, and nothing else is different. -/
structure Emptied (t t' : FileTree) (report copy : Option Place) : Prop where
  here : t'.here = t.here
  found : ∀ q, t'.at? q =
    if report = some q ∨ copy = some q then some (.file []) else t.at? q

theorem here_truncate {t t' : FileTree} {o : Output} (h : o.truncate t = .ok t') :
    t'.here = t.here := by
  cases o with
  | stdout =>
    obtain rfl := Except.ok.inj h
    rfl
  | file path p =>
    obtain ⟨-, rfl⟩ := FileTree.truncate_eq_ok_iff.mp h
    rfl

theorem truncate_of_regular {t : FileTree} {o : Output} (h : Regular t o.place?) :
    ∃ t', o.truncate t = .ok t' := by
  cases o with
  | stdout => exact ⟨t, rfl⟩
  | file path p => exact ⟨_, FileTree.truncate_eq_ok_iff.mpr ⟨h p rfl, rfl⟩⟩

theorem Regular.of_truncate {t t' : FileTree} {o : Output} {place : Option Place}
    (h : Regular t place) (htruncate : o.truncate t = .ok t') : Regular t' place := by
  intro p hp
  rw [at?_truncate htruncate]
  split
  · exact ⟨[], rfl⟩
  · exact h p hp

/-- Outputs that were truncated, the report's first, are empty. -/
theorem emptied_of_truncated {t t₁ t₂ : FileTree} {report : Output} {filtered : Option Output}
    (hreport : report.truncate t = .ok t₁) (hcopy : TruncatesCopy t₁ filtered t₂) :
    Emptied t t₂ report.place? (copyPlace? filtered) := by
  cases hcopy with
  | unwanted =>
    refine ⟨here_truncate hreport, ?_⟩
    intro q
    rw [at?_truncate hreport]
    simp [copyPlace?]
  | @output o _ hcopy =>
    refine ⟨(here_truncate hcopy).trans (here_truncate hreport), ?_⟩
    intro q
    rw [at?_truncate hcopy, at?_truncate hreport, copyPlace?, Option.bind_some]
    by_cases hq : o.place? = some q <;> by_cases hq' : report.place? = some q <;> simp [hq, hq']

theorem truncates_of_regular {t : FileTree} {report : Output} {filtered : Option Output}
    (hreport : Regular t report.place?) (hcopy : Regular t (copyPlace? filtered)) :
    ∃ t₁ t₂, report.truncate t = .ok t₁ ∧ TruncatesCopy t₁ filtered t₂ := by
  obtain ⟨t₁, htruncate⟩ := truncate_of_regular hreport
  cases filtered with
  | none => exact ⟨t₁, t₁, htruncate, .unwanted⟩
  | some o =>
    obtain ⟨t₂, htruncate'⟩ := truncate_of_regular (hcopy.of_truncate htruncate)
    exact ⟨t₁, t₂, htruncate, .output htruncate'⟩

/-- With readable input and regular files a run gets as far as writing, and only the files that it
writes to have changed by then. -/
theorem run_of_goes {w : World} {job : Job} {log : Bytes} {reportAt copyAt : Option Place}
    (hread : readInput w job.input = .ok log) (hreport : Goes w.tree job.report reportAt)
    (hcopy : GoesCopy w.tree job.filtered copyAt) :
    ∃ report filtered t t', Opened w job log report filtered t ∧ report.place? = reportAt ∧
      copyPlace? filtered = copyAt ∧ Emptied w.tree t' reportAt copyAt ∧
      SameEffect (run w job) (write w job log t' report filtered) := by
  obtain ⟨report, t₁, hopens, rfl, hregular⟩ := hreport.opens
  obtain ⟨filtered, t, hopens', rfl, hregular'⟩ := hcopy.opens hopens.grows
  obtain ⟨t₂, t', htruncate, htruncates⟩ :=
    truncates_of_regular (hregular.of_grows hopens'.grows) hregular'
  have hemptied := emptied_of_truncated htruncate htruncates
  have hopened : Opened w job log report filtered t := ⟨hread, t₁, hopens, hopens'⟩
  refine ⟨report, filtered, t, t', hopened, rfl, rfl, ?_, ?_⟩
  · refine ⟨hemptied.here.trans hopened.grows.here, ?_⟩
    intro q
    rw [hemptied.found q]
    split
    · rfl
    · rename_i hq
      rw [not_or] at hq
      rw [hopens'.at?_of_ne hq.2, hopens.at?_of_ne hq.1]
  · have heffect := run_of_opened hopened
    rwa [truncateAndWrite_of_truncated htruncate htruncates] at heffect

/-! ## Files that were written -/

/-- A report and a copy were written to places, or not at all, and nothing else is different. In one
file the copy lies over the report. -/
structure Written (t t' : FileTree) (reportAt copyAt : Option Place) (report copy : Bytes) :
    Prop where
  here : t'.here = t.here
  onlyReport : ∀ q, reportAt = some q → copyAt ≠ some q → t'.at? q = some (.file report)
  onlyCopy : ∀ q, copyAt = some q → reportAt ≠ some q → t'.at? q = some (.file copy)
  both : ∀ q, reportAt = some q → copyAt = some q →
    t'.at? q = some (.file (copy ++ report.drop copy.length))
  rest : ∀ q, reportAt ≠ some q → copyAt ≠ some q → t'.at? q = t.at? q

/-- Into empty files: first the report, then the copy over whatever is in its file by then. -/
theorem Emptied.written {t t' : FileTree} {report : Output} {filtered : Option Output}
    (h : Emptied t t' report.place? (copyPlace? filtered)) (written copy : Bytes) :
    Written t (commitCopy (report.commit t' written) copy filtered) report.place?
      (copyPlace? filtered) written copy := by
  have hreport : ∀ q, (report.commit t' written).at? q =
      if report.place? = some q then some (.file written) else t'.at? q := by
    intro q
    have hempty : ∀ p, report.place? = some p → t'.at? p = some (.file []) := by
      intro p hp
      rw [h.found p, if_pos (.inl hp)]
    rw [at?_commit hempty, List.drop_nil, List.append_nil]
  -- the copy's file holds the report by now, or is still empty
  have hcopy : ∀ p, copyPlace? filtered = some p → (report.commit t' written).at? p =
      some (.file (if report.place? = copyPlace? filtered then written else [])) := by
    intro p hp
    rw [hreport p, hp]
    split
    · rfl
    · rw [h.found p, if_pos (.inr hp)]
  refine ⟨?_, ?_, ?_, ?_, ?_⟩
  · rw [here_commitCopy, here_commit, h.here]
  · intro q hq hne
    rw [at?_commitCopy hcopy, if_neg hne, hreport q, if_pos hq]
  · intro q hq hne
    rw [at?_commitCopy hcopy, if_pos hq, hq, if_neg hne, List.drop_nil, List.append_nil]
  · intro q hq hq'
    rw [at?_commitCopy hcopy, if_pos hq', hq', if_pos hq]
  · intro q hq hq'
    rw [at?_commitCopy hcopy, if_neg hq', hreport q, if_neg hq, h.found q, if_neg]
    rw [not_or]
    exact ⟨hq, hq'⟩

/-! ## The whole run -/

/-- The sinks of a job work: that behind the standard output, if the report goes there, and those
behind the files of these places. -/
structure SinksWork (w : World) (job : Job) (reportAt copyAt : Option Place) : Prop where
  stdout : job.report = .stdout → w.stdout.Works
  report : ∀ p, reportAt = some p → (w.file p).Works
  copy : ∀ p, copyAt = some p → (w.file p).Works

theorem SinksWork.of_unbounded {w : World} (h : w.sinks = .unbounded) (job : Job)
    (reportAt copyAt : Option Place) : SinksWork w job reportAt copyAt := by
  have hfile : ∀ p, (w.file p).Works := by
    intro p
    rw [World.file, h]
    exact Sink.works_unbounded
  refine ⟨fun _ => ?_, fun p _ => hfile p, fun p _ => hfile p⟩
  rw [World.stdout, h]
  exact Sink.works_unbounded

/-- An output works if the standard output does, or the file that it is. -/
theorem Opens.works {w : World} {t t' : FileTree} {d : Destination} {o : Output}
    (h : Opens t d o t') (hstdout : d = .stdout → w.stdout.Works)
    (hfile : ∀ p, o.place? = some p → (w.file p).Works) : (o.sink w).Works := by
  cases h with
  | stdout => exact hstdout rfl
  | file => exact hfile _ rfl

theorem OpensCopy.works {w : World} {t t' : FileTree} {filtered : Option Text}
    {o : Option Output} (h : OpensCopy t filtered o t')
    (hfile : ∀ p, copyPlace? o = some p → (w.file p).Works) : ∀ o' ∈ o, (o'.sink w).Works := by
  cases h with
  | unwanted => nofun
  | wanted hopens =>
    rintro o' ⟨⟩
    exact hopens.works nofun hfile

theorem Opens.shown {t t' : FileTree} {d : Destination} {o : Output} (h : Opens t d o t')
    (taken : Bytes) : o.shown taken = if d = .stdout then taken else [] := by
  cases h with
  | stdout => rfl
  | file => rfl

/-- If the sinks work, too, the run succeeds and writes both as a whole into the empty files. -/
theorem run_of_sinksWork {w : World} {job : Job} {log : Bytes} {reportAt copyAt : Option Place}
    (hread : readInput w job.input = .ok log) (hreport : Goes w.tree job.report reportAt)
    (hcopy : GoesCopy w.tree job.filtered copyAt) (hsinks : SinksWork w job reportAt copyAt) :
    (run w job).outcome =
        .ok (summary (Scan.ofLog log) (job.filtered.map fun _ => Filtered.stats log)) ∧
      (run w job).stdout = (if job.report = .stdout then reportOf job log else []) ∧
      ∃ report filtered t t', Opened w job log report filtered t ∧ report.place? = reportAt ∧
        copyPlace? filtered = copyAt ∧ Emptied w.tree t' reportAt copyAt ∧
        (run w job).tree =
          commitCopy (report.commit t' (reportOf job log)) (Filtered.copy log) filtered := by
  obtain ⟨report, filtered, t, t', hopened, rfl, rfl, hemptied, heffect⟩ :=
    run_of_goes hread hreport hcopy
  obtain ⟨t₁, hopens, hopens'⟩ := hopened.outputs
  obtain ⟨houtcome, htree, hshown⟩ :=
    write_working (hopens.works hsinks.stdout hsinks.report) (hopens'.works hsinks.copy) job log t'
  refine ⟨?_, ?_, report, filtered, t, t', hopened, rfl, rfl, hemptied, ?_⟩
  · rw [heffect.outcome, houtcome, hopens'.map_const]
  · rw [heffect.stdout, hshown, hopens.shown]
  · rw [heffect.tree, htree]

/-- **A run does what it is asked to, whatever files its paths name.** With readable input, a report
that goes to a working standard output or to a regular file, and a copy to a regular file, if any,
the run succeeds, as long as the files take what is written to them. The report is that of the log
as it was before the run, in the format asked for; the copy is that of the same log. Each file holds
exactly what was written to it, one that is meant for both holds the copy over the report, and
nothing else in the tree is different, even if the log itself is one of the files. -/
theorem run_writes_report_and_copy {w : World} {job : Job} {log : Bytes}
    {reportAt copyAt : Option Place} (hread : readInput w job.input = .ok log)
    (hreport : Goes w.tree job.report reportAt)
    (hcopy : GoesCopy w.tree job.filtered copyAt)
    (hsinks : SinksWork w job reportAt copyAt) :
    let tally := Scan.ofLog log
    let report := Utf8.encode (Report.render job.format job.counts tally)
    let copy := Filtered.copy log
    (run w job).outcome = .ok {
      linesScanned := tally.linesScanned
      markerLines := tally.markerLines
      uniqueEntries := tally.entries.size
      rawLineEntries := tally.rawLineEntries
      filter := job.filtered.map fun _ => Filtered.stats log } ∧
    (run w job).stdout = (if job.report = .stdout then report else []) ∧
    Written w.tree (run w job).tree reportAt copyAt report copy := by
  obtain ⟨houtcome, hstdout, output, filtered, t, t', -, rfl, rfl, hemptied, htree⟩ :=
    run_of_sinksWork hread hreport hcopy hsinks
  refine ⟨houtcome, hstdout, ?_⟩
  rw [htree]
  exact hemptied.written _ _

/-- The two lines in a file. -/
def fileWorld : World := ⟨⟨[(["log".toList], .file twoLines)], []⟩, .ok [], .unbounded⟩

/-- Report and copy both go to the log, under two of its names. -/
def inPlaceJob : Job :=
  ⟨.file "log".toList, .file "./log".toList, true, .text, some "/log".toList⟩

theorem run_writes_report_and_copy_in_place :
    readInput fileWorld inPlaceJob.input = .ok twoLines ∧
    Goes fileWorld.tree inPlaceJob.report (some ["log".toList]) ∧
    GoesCopy fileWorld.tree inPlaceJob.filtered (some ["log".toList]) ∧
    SinksWork fileWorld inPlaceJob (some ["log".toList]) (some ["log".toList]) ∧
    (run fileWorld inPlaceJob).outcome =
      .ok (summary (Scan.ofLog twoLines) (some (Filtered.stats twoLines))) ∧
    Filtered.copy twoLines = Utf8.encode "ok".toList ∧
    (run fileWorld inPlaceJob).tree.at? ["log".toList] = some (.file (Utf8.encode "ok".toList ++
      (Utf8.encode (Report.render .text true (Scan.ofLog twoLines))).drop 2)) ∧
    SinksWork freshWorld copyJob none (some ["kept.log".toList]) ∧
    (run freshWorld copyJob).stdout =
      Utf8.encode (Report.render .json true (Scan.ofLog twoLines)) ∧
    (run freshWorld copyJob).tree.at? ["kept.log".toList] =
      some (.file (Filtered.copy twoLines)) := by
  have hreport : Goes fileWorld.tree inPlaceJob.report (some ["log".toList]) :=
    .file ⟨_, rfl, twoLines, rfl⟩
  have hcopy : GoesCopy fileWorld.tree inPlaceJob.filtered (some ["log".toList]) :=
    .wanted (.file ⟨_, rfl, twoLines, rfl⟩)
  have hfresh : GoesCopy freshWorld.tree copyJob.filtered (some ["kept.log".toList]) :=
    .wanted (.file ⟨_, rfl, [], rfl⟩)
  have hok : Filtered.copy twoLines = Utf8.encode "ok".toList := by decide
  have hsinks : SinksWork fileWorld inPlaceJob (some ["log".toList]) (some ["log".toList]) :=
    .of_unbounded rfl _ _ _
  have hsinks' : SinksWork freshWorld copyJob none (some ["kept.log".toList]) :=
    .of_unbounded rfl _ _ _
  have hstdin : readInput freshWorld copyJob.input = .ok twoLines := rfl
  obtain ⟨houtcome, -, hwritten⟩ := run_writes_report_and_copy rfl hreport hcopy hsinks
  obtain ⟨-, hstdout, hwritten'⟩ := run_writes_report_and_copy hstdin .stdout hfresh hsinks'
  refine ⟨rfl, hreport, hcopy, hsinks, houtcome, hok, ?_, hsinks', hstdout,
    hwritten'.onlyCopy _ rfl nofun⟩
  rw [hwritten.both _ rfl rfl, hok]
  rfl

end MismatchLog.Run
