import MismatchLog.Proofs.FileTree.Contents
import MismatchLog.Proofs.Run.Effect

/-!
# What files held before does not matter

Destinations are opened without being truncated, and truncated only when all of them are open. A run
is followed through both steps in two trees that differ in what the destinations hold
(`DifferInFiles`):

* `openAndWrite_alike`, `run_alike`: the two runs answer alike, and a run that succeeds has made the
  trees the same;
* `run_repeated`: so has one that starts from the tree that an earlier run left;
* `earlier_contents_do_not_matter`: both together.
-/

namespace MismatchLog

/-- A path that the job writes to names this place. -/
def Job.WritesTo (job : Job) (t : FileTree) (p : Place) : Prop :=
  (∃ path, job.report = .file path ∧ t.Names path p) ∨
    ∃ path, job.filtered = some path ∧ t.Names path p

/-- The path that the job reads from names this place. -/
def Job.ReadsFrom (job : Job) (t : FileTree) (p : Place) : Prop :=
  ∃ path, job.input = .file path ∧ t.Names path p

/-- The job discards what this place holds without having read it. -/
def Job.OnlyWritesTo (job : Job) (t : FileTree) (p : Place) : Prop :=
  job.WritesTo t p ∧ ¬ job.ReadsFrom t p

namespace Run

open FileTree (DifferInFiles EndAlike Same SameDirectories)

/-! ## Outputs in two trees -/

/-- The report's output or the copy's is the file of this place. -/
def OutputAt (report : Output) (filtered : Option Output) (p : Place) : Prop :=
  report.place? = some p ∨ copyPlace? filtered = some p

section
variable {places : Place → Prop} {t t' : FileTree}

theorem Output.commit_of_differ (h : DifferInFiles places t t') (o : Output) (taken : Bytes) :
    DifferInFiles places (o.commit t taken) (o.commit t' taken) := by
  cases o with
  | stdout => exact h
  | file path p => exact FileTree.writeOver_of_differ h p taken

theorem Output.truncate_of_differ (h : DifferInFiles places t t') (o : Output) :
    EndAlike (DifferInFiles fun q => places q ∧ o.place? ≠ some q) (o.truncate t)
      (o.truncate t') := by
  cases o with
  | stdout => exact .ok (h.mono fun q hq => ⟨hq, nofun⟩)
  | file path p =>
    refine (FileTree.truncate_of_differ h p).mono ?_
    intro u u' hu
    refine hu.mono ?_
    rintro q ⟨hq, hne⟩
    refine ⟨hq, ?_⟩
    rintro ⟨⟩
    exact hne rfl

theorem Output.ofDestination_of_differ (h : DifferInFiles places t t') (d : Destination) :
    EndAlike (fun r r' => r'.1 = r.1 ∧ DifferInFiles places r.2 r'.2) (Output.ofDestination t d)
      (Output.ofDestination t' d) := by
  cases d with
  | stdout => exact .ok ⟨rfl, h⟩
  | file path =>
    refine (FileTree.openForWriting_of_differ h path).bind ?_
    rintro ⟨p, u⟩ ⟨p', u'⟩ ⟨rfl, hu⟩
    exact .ok ⟨rfl, hu⟩

theorem Output.ofDestination?_of_differ (h : DifferInFiles places t t') (d : Option Destination) :
    EndAlike (fun r r' => r'.1 = r.1 ∧ DifferInFiles places r.2 r'.2) (Output.ofDestination? t d)
      (Output.ofDestination? t' d) := by
  cases d with
  | none => exact .ok ⟨rfl, h⟩
  | some d =>
    refine (Output.ofDestination_of_differ h d).bind ?_
    rintro ⟨o, u⟩ ⟨o', u'⟩ ⟨rfl, hu⟩
    exact .ok ⟨rfl, hu⟩

end

/-! ## Writing in two trees -/

/-- Two runs give the same answer, and their trees differ in files at these places; after a success
only in those at the second ones. -/
structure AnswerAlike (places left : Place → Prop) (r r' : Result) : Prop where
  outcome : r'.outcome = r.outcome
  stdout : r'.stdout = r.stdout
  events : r'.events = r.events
  tree : DifferInFiles places r.tree r'.tree
  success : ∀ s, r.outcome = .ok s → DifferInFiles left r.tree r'.tree

theorem AnswerAlike.mono {places places' left left' : Place → Prop} {r r' : Result}
    (h : AnswerAlike places left r r') (hplaces : ∀ p, places p → places' p)
    (hleft : ∀ p, left p → left' p) : AnswerAlike places' left' r r' :=
  ⟨h.outcome, h.stdout, h.events, h.tree.mono hplaces, fun s hs => (h.success s hs).mono hleft⟩

section
variable {places : Place → Prop} {t t' : FileTree}

theorem stopped_alike (h : DifferInFiles places t t') (e : RunError) (left : Place → Prop) :
    AnswerAlike places left (stopped e t) (stopped e t') :=
  ⟨rfl, rfl, rfl, h, nofun⟩

theorem writeFiltered_alike (h : DifferInFiles places t t') (w : World) (log : Bytes)
    (filtered : Option Output) :
    (writeFiltered w log t' filtered).1 = (writeFiltered w log t filtered).1 ∧
      DifferInFiles places (writeFiltered w log t filtered).2
        (writeFiltered w log t' filtered).2 := by
  cases filtered with
  | none => exact ⟨rfl, h⟩
  | some o =>
    dsimp only [writeFiltered]
    cases Filtered.result log _ with
    | error e => exact ⟨rfl, o.commit_of_differ h _⟩
    | ok stats => exact ⟨rfl, o.commit_of_differ h _⟩

theorem write_alike (h : DifferInFiles places t t') (w : World) (job : Job) (log : Bytes)
    (report : Output) (filtered : Option Output) :
    AnswerAlike places places (write w job log t report filtered)
      (write w job log t' report filtered) := by
  dsimp only [write]
  generalize Delivery.sendTo _ _ = delivered
  have hcommit := report.commit_of_differ h delivered.taken
  cases Report.result _ _ _ delivered with
  | error e => exact ⟨rfl, rfl, rfl, hcommit, nofun⟩
  | ok n =>
    obtain ⟨hanswer, htrees⟩ := writeFiltered_alike hcommit w log filtered
    generalize writeFiltered w log (report.commit t delivered.taken) filtered = x at *
    generalize writeFiltered w log (report.commit t' delivered.taken) filtered = x' at *
    obtain ⟨answer, u⟩ := x
    obtain ⟨answer', u'⟩ := x'
    obtain rfl : answer' = answer := hanswer
    cases answer' with
    | error e => exact ⟨rfl, rfl, rfl, htrees, nofun⟩
    | ok r => exact ⟨rfl, rfl, rfl, htrees, fun _ _ => htrees⟩

/-- Only places that are not truncated can still differ when the run succeeds. -/
theorem truncateAndWrite_alike (h : DifferInFiles places t t') (w : World) (job : Job) (log : Bytes)
    (report : Output) (filtered : Option Output) :
    AnswerAlike places
      (fun q => places q ∧ ¬ OutputAt report filtered q)
      (truncateAndWrite w job log t report filtered)
      (truncateAndWrite w job log t' report filtered) := by
  have hreport := report.truncate_of_differ h
  dsimp only [truncateAndWrite]
  generalize report.truncate t = x at hreport
  generalize report.truncate t' = x' at hreport
  cases hreport with
  | error e => exact stopped_alike h _ _
  | @ok u u' hu =>
    cases filtered with
    | none =>
      refine (write_alike hu w job log report none).mono (fun q hq => hq.1) ?_
      rintro q ⟨hq, hreport⟩
      exact ⟨hq, not_or.mpr ⟨hreport, nofun⟩⟩
    | some o =>
      have hcopy := o.truncate_of_differ hu
      dsimp only
      generalize o.truncate u = y at hcopy
      generalize o.truncate u' = y' at hcopy
      cases hcopy with
      | error e => exact stopped_alike (hu.mono fun _ => And.left) _ _
      | ok hv =>
        refine (write_alike hv w job log report (some o)).mono (fun q hq => hq.1.1) ?_
        rintro q ⟨⟨hq, hreport⟩, hcopy⟩
        exact ⟨hq, not_or.mpr ⟨hreport, hcopy⟩⟩

end

/-! ## Running in two trees -/

theorem Output.sink_tree (w : World) (t : FileTree) (o : Output) :
    o.sink { w with tree := t } = o.sink w := by
  cases o with
  | stdout => rfl
  | file path p => rfl

/-- Once everything is open, the tree in which a run was started does not matter. -/
theorem truncateAndWrite_tree (w : World) (t : FileTree) :
    truncateAndWrite { w with tree := t } = truncateAndWrite w := by
  have hsink : ∀ o : Output, o.sink { w with tree := t } = o.sink w := Output.sink_tree w t
  have hcopy : writeFiltered { w with tree := t } = writeFiltered w := by
    funext log u filtered
    cases filtered with
    | none => rfl
    | some o => simp only [writeFiltered, hsink]
  have hwrite : write { w with tree := t } = write w := by
    funext job log u report filtered
    simp only [write, hsink, hcopy]
  funext job log u report filtered
  simp only [truncateAndWrite, hwrite]

/-- The place of an output is the one that its path names. -/
theorem Opens.place?_eq_some_iff_names {t t' : FileTree} {d : Destination} {o : Output}
    (h : Opens t d o t') {p : Place} :
    o.place? = some p ↔ ∃ path, d = .file path ∧ t.Names path p := by
  cases h with
  | stdout =>
    constructor
    · rintro ⟨⟩
    · rintro ⟨path, hd, -⟩
      cases hd
  | @file path q _ hopen =>
    have hnames := FileTree.names_of_open hopen
    constructor
    · rintro ⟨⟩
      exact ⟨path, rfl, hnames⟩
    · rintro ⟨path', hd, hp⟩
      cases hd
      rw [hnames.unique hp]
      rfl

theorem OpensCopy.place?_eq_some_iff_names {t t' : FileTree} {filtered : Option Text}
    {o : Option Output} (h : OpensCopy t filtered o t') {p : Place} :
    copyPlace? o = some p ↔ ∃ path, filtered = some path ∧ t.Names path p := by
  cases h with
  | unwanted =>
    constructor
    · rintro ⟨⟩
    · rintro ⟨path, hpath, -⟩
      cases hpath
  | wanted hopens => simpa [copyPlace?] using hopens.place?_eq_some_iff_names

/-- The outputs are at the places that the job writes to. -/
theorem Opened.writesTo_iff {w : World} {job : Job} {log : Bytes} {report : Output}
    {filtered : Option Output} {t : FileTree} (h : Opened w job log report filtered t)
    {p : Place} :
    job.WritesTo w.tree p ↔ OutputAt report filtered p := by
  obtain ⟨t₁, hreport, hcopy⟩ := h.outputs
  rw [OutputAt, hreport.place?_eq_some_iff_names, hcopy.place?_eq_some_iff_names]
  simp only [Job.WritesTo, FileTree.names_of_sameDirectories hreport.grows.sameDirectories]

theorem openAndWrite_alike {places : Place → Prop} {w : World} {job : Job} {log : Bytes}
    {t' : FileTree} (hread : readInput w job.input = .ok log)
    (h : DifferInFiles places w.tree t') (hplaces : ∀ p, places p → job.WritesTo w.tree p) :
    AnswerAlike places (fun _ => False) (openAndWrite w job log)
      (openAndWrite { w with tree := t' } job log) := by
  have hreport := Output.ofDestination_of_differ h job.report
  dsimp only [openAndWrite]
  generalize hx : Output.ofDestination w.tree job.report = x at hreport
  generalize Output.ofDestination t' job.report = x' at hreport
  cases hreport with
  | error e => exact stopped_alike h _ _
  | @ok a b hab =>
    obtain ⟨_, t₁⟩ := a
    obtain ⟨report, t₁'⟩ := b
    obtain ⟨rfl, ht₁⟩ := hab
    have hcopy := Output.ofDestination?_of_differ ht₁ job.filteredTo
    dsimp only
    generalize hy : Output.ofDestination? t₁ job.filteredTo = y at hcopy
    generalize Output.ofDestination? t₁' job.filteredTo = y' at hcopy
    cases hcopy with
    | error e => exact stopped_alike ht₁ _ _
    | @ok a b hab =>
      obtain ⟨_, t₂⟩ := a
      obtain ⟨filtered, t₂'⟩ := b
      obtain ⟨rfl, ht₂⟩ := hab
      have hopened : Opened w job log report filtered t₂ :=
        ⟨hread, t₁, ofDestination_eq_ok_iff.mp hx, ofDestination?_eq_ok_iff.mp hy⟩
      dsimp only
      rw [truncateAndWrite_tree]
      refine (truncateAndWrite_alike ht₂ w job log report filtered).mono (fun _ => id) ?_
      rintro p ⟨hp, hnot⟩
      exact hnot (hopened.writesTo_iff.mp (hplaces p hp))

/-- The input is read alike, since the trees do not differ in it. -/
theorem run_alike {w : World} {job : Job} {t' : FileTree}
    (h : DifferInFiles (job.OnlyWritesTo w.tree) w.tree t') :
    AnswerAlike (job.OnlyWritesTo w.tree) (fun _ => False) (run w job)
      (run { w with tree := t' } job) := by
  have hread : readInput { w with tree := t' } job.input = readInput w job.input := by
    cases hinput : job.input with
    | stdin => rfl
    | file path => exact FileTree.read_of_differ h fun p hp hplace => hplace.2 ⟨path, hinput, hp⟩
  dsimp only [run]
  rw [hread]
  cases hlog : readInput w job.input with
  | error e => exact stopped_alike h _ _
  | ok log =>
    have hopen := openAndWrite_alike hlog h fun p hp => hp.1
    exact ⟨hopen.outcome, hopen.stdout, congrArg (_ :: ·) hopen.events, hopen.tree, hopen.success⟩

/-! ## What a run changes -/

/-- A run that has opened everything and succeeds has truncated its outputs. -/
theorem truncates_of_success {w : World} {job : Job} {log : Bytes} {t : FileTree} {report : Output}
    {filtered : Option Output} {s : Summary}
    (h : (truncateAndWrite w job log t report filtered).outcome = .ok s) :
    ∃ t₁ t₂, report.truncate t = .ok t₁ ∧ TruncatesCopy t₁ filtered t₂ ∧
      truncateAndWrite w job log t report filtered = write w job log t₂ report filtered := by
  rcases truncateAndWrite_cases w job log t report filtered with
    ⟨e, -, heq⟩ | ⟨t₁, o, e, -, -, -, heq⟩ | hwrites
  · rw [heq] at h
    cases h
  · rw [heq] at h
    cases h
  · exact hwrites

theorem Output.differInFiles_commit (t : FileTree) (o : Output) (taken : Bytes) :
    DifferInFiles (fun p => o.place? = some p) t (o.commit t taken) := by
  cases o with
  | stdout => exact .refl _ t
  | file path p =>
    refine (FileTree.differInFiles_writeOver t p taken).mono ?_
    rintro q rfl
    rfl

theorem Output.differInFiles_truncate {t t' : FileTree} {o : Output} (h : o.truncate t = .ok t') :
    DifferInFiles (fun p => o.place? = some p) t t' := by
  cases o with
  | stdout =>
    obtain rfl := Except.ok.inj h
    exact .refl _ t
  | file path p =>
    refine (FileTree.differInFiles_truncate h).mono ?_
    rintro q rfl
    rfl

theorem TruncatesCopy.differInFiles {t t' : FileTree} {filtered : Option Output}
    (h : TruncatesCopy t filtered t') :
    DifferInFiles (fun p => copyPlace? filtered = some p) t t' := by
  cases h with
  | unwanted => exact .refl _ t
  | output htruncate => exact Output.differInFiles_truncate htruncate

theorem differInFiles_writeFiltered (w : World) (log : Bytes) (t : FileTree)
    (filtered : Option Output) :
    DifferInFiles (fun p => copyPlace? filtered = some p) t (writeFiltered w log t filtered).2 := by
  cases filtered with
  | none => exact .refl _ t
  | some o =>
    dsimp only [writeFiltered]
    split
    · exact o.differInFiles_commit t _
    · exact o.differInFiles_commit t _

/-- Writing changes what the outputs hold and nothing else. -/
theorem differInFiles_write (w : World) (job : Job) (log : Bytes) (t : FileTree) (report : Output)
    (filtered : Option Output) :
    DifferInFiles (OutputAt report filtered) t (write w job log t report filtered).tree := by
  dsimp only [write]
  generalize Delivery.sendTo _ _ = delivered
  have hreport : DifferInFiles (OutputAt report filtered) t (report.commit t delivered.taken) :=
    (report.differInFiles_commit t _).mono fun _ => .inl
  cases Report.result _ _ _ delivered with
  | error e => exact hreport
  | ok n =>
    have hcopy := differInFiles_writeFiltered w log (report.commit t delivered.taken) filtered
    generalize writeFiltered w log (report.commit t delivered.taken) filtered = x at hcopy
    obtain ⟨answer, u⟩ := x
    cases answer with
    | error e => exact hreport.trans (hcopy.mono fun _ => .inr)
    | ok r => exact hreport.trans (hcopy.mono fun _ => .inr)

theorem differInFiles_truncateAndWrite (w : World) (job : Job) (log : Bytes) (t : FileTree)
    (report : Output) (filtered : Option Output) :
    DifferInFiles (OutputAt report filtered) t
      (truncateAndWrite w job log t report filtered).tree := by
  rcases truncateAndWrite_cases w job log t report filtered with
    ⟨e, -, heq⟩ | ⟨t₁, o, e, hreport, -, -, heq⟩ | ⟨t₁, t₂, hreport, hcopy, heq⟩
  · rw [heq]
    exact .refl _ t
  · rw [heq]
    exact (Output.differInFiles_truncate hreport).mono fun _ => .inl
  · rw [heq]
    have htruncated : DifferInFiles (OutputAt report filtered) t t₁ :=
      (Output.differInFiles_truncate hreport).mono fun _ => .inl
    exact (htruncated.trans (hcopy.differInFiles.mono fun _ => .inr)).trans
      (differInFiles_write w job log t₂ report filtered)

section
variable {w : World} {job : Job} {log : Bytes} {report : Output} {filtered : Option Output}
  {t : FileTree}

theorem Opened.differInFiles (h : Opened w job log report filtered t) :
    DifferInFiles (OutputAt report filtered) t (run w job).tree := by
  rw [(run_of_opened h).tree]
  exact differInFiles_truncateAndWrite w job log t report filtered

/-- Directories stay, so what a path names stays as well. -/
theorem Opened.sameDirectories (h : Opened w job log report filtered t) :
    SameDirectories w.tree (run w job).tree :=
  h.grows.sameDirectories.trans h.differInFiles.sameDirectories

/-! ## Running again -/

/-- What the next run finds: the tree that this one leaves. -/
def after (w : World) (job : Job) : World := { w with tree := (run w job).tree }

theorem Regular.of_differ {places : Place → Prop} {t' : FileTree} {place : Option Place}
    (h : Regular t place) (hdiffer : DifferInFiles places t t') : Regular t' place := by
  intro p hp
  obtain ⟨content, hat⟩ := h p hp
  exact hdiffer.file hat

theorem regular_of_truncate {t' : FileTree} {o : Output} (h : o.truncate t = .ok t') :
    Regular t o.place? := by
  cases o with
  | stdout => nofun
  | file path p =>
    rintro q ⟨⟩
    exact (FileTree.truncate_eq_ok_iff.mp h).1

theorem TruncatesCopy.regular {t' : FileTree} (h : TruncatesCopy t filtered t') :
    Regular t (copyPlace? filtered) := by
  cases h with
  | unwanted => nofun
  | output htruncate => exact regular_of_truncate htruncate

/-- A run that succeeds has written to regular files, and leaves them regular. -/
theorem Opened.regular_of_success {s : Summary} (h : Opened w job log report filtered t)
    (hs : (run w job).outcome = .ok s) :
    Regular (run w job).tree report.place? ∧ Regular (run w job).tree (copyPlace? filtered) := by
  rw [(run_of_opened h).outcome] at hs
  obtain ⟨t₁, t₂, hreport, hcopy, -⟩ := truncates_of_success hs
  have hback := (Output.differInFiles_truncate hreport).symm
  exact ⟨(regular_of_truncate hreport).of_differ h.differInFiles,
    (hcopy.regular.of_differ hback).of_differ h.differInFiles⟩

theorem Opens.again {t' u : FileTree} {d : Destination} {o : Output} (h : Opens t d o t')
    (hdirectories : SameDirectories t u) (hregular : Regular u o.place?) : Opens u d o u := by
  cases h with
  | stdout => exact .stdout
  | file hopen =>
    obtain ⟨content, hat⟩ := hregular _ rfl
    exact .file ((FileTree.OpensFile.of_open hopen hdirectories hat).openForWriting hat)

theorem OpensCopy.again {t' u : FileTree} {wanted : Option Text}
    (h : OpensCopy t wanted filtered t') (hdirectories : SameDirectories t u)
    (hregular : Regular u (copyPlace? filtered)) : OpensCopy u wanted filtered u := by
  cases h with
  | unwanted => exact .unwanted
  | wanted hopens => exact .wanted (hopens.again hdirectories hregular)

/-- After a success everything is there as it was, the log too unless it was written to. -/
theorem Opened.again {s : Summary} (h : Opened w job log report filtered t)
    (hs : (run w job).outcome = .ok s)
    (hapart : ∀ p, job.WritesTo w.tree p → ¬ job.ReadsFrom w.tree p) :
    Opened (after w job) job log report filtered (run w job).tree := by
  obtain ⟨hregular, hregular'⟩ := h.regular_of_success hs
  refine ⟨?_, (run w job).tree, ?_, ?_⟩
  · have hread := h.read
    cases hinput : job.input with
    | stdin => rwa [hinput] at hread
    | file path =>
      rw [hinput] at hread
      have hkept : t.read path = .ok log := h.grows.read hread
      rw [← hkept]
      refine FileTree.read_of_differ h.differInFiles ?_
      intro p hp hout
      rw [FileTree.names_of_sameDirectories h.grows.sameDirectories] at hp
      exact hapart p (h.writesTo_iff.mpr hout) ⟨path, hinput, hp⟩
  · obtain ⟨t₁, hreport, -⟩ := h.outputs
    exact hreport.again h.sameDirectories hregular
  · obtain ⟨t₁, hreport, hcopy⟩ := h.outputs
    exact hcopy.again (hreport.grows.sameDirectories.symm.trans h.sameDirectories) hregular'

/-- The second of two runs truncates what the first has written, and writes the same. -/
theorem run_repeated {s : Summary} (hs : (run w job).outcome = .ok s)
    (hapart : ∀ p, job.WritesTo w.tree p → ¬ job.ReadsFrom w.tree p) :
    (run (after w job) job).outcome = .ok s ∧
      (run (after w job) job).stdout = (run w job).stdout ∧
      Same (run w job).tree (run (after w job) job).tree := by
  rcases firstFailure_or_opened w job with ⟨err, hfirst⟩ | ⟨log, report, filtered, t, hopened⟩
  · rw [outcome_of_firstFailure hfirst] at hs
    cases hs
  · have hfirst := run_of_opened hopened
    have hsecond := run_of_opened (hopened.again hs hapart)
    rw [after, truncateAndWrite_tree] at hsecond
    have halike := truncateAndWrite_alike hopened.differInFiles w job log report filtered
    rw [hfirst.outcome] at hs
    refine ⟨?_, ?_, ?_⟩
    · rw [after, hsecond.outcome, halike.outcome, hs]
    · rw [after, hsecond.stdout, halike.stdout, hfirst.stdout]
    · have hsame := (halike.success s hs).same fun p hp => hp.2 hp.1
      rwa [← hfirst.tree, ← hsecond.tree] at hsame

end

/-- **What the destinations held before a run does not matter.** In two trees that differ only in
regular files that the job writes to and does not read, a run gives the same answer: the same
summary or the same error, the same bytes on the standard output, the same events. If it succeeds,
the trees are the same afterwards, even if report and copy go to one file. So a run that succeeded
and wrote none of what it read gives the same summary and output when it is repeated, and leaves the
tree as it found it. -/
theorem earlier_contents_do_not_matter (w : World) (job : Job) :
    (∀ t', DifferInFiles (job.OnlyWritesTo w.tree) w.tree t' →
      (run { w with tree := t' } job).outcome = (run w job).outcome ∧
      (run { w with tree := t' } job).stdout = (run w job).stdout ∧
      (run { w with tree := t' } job).events = (run w job).events ∧
      ∀ s, (run w job).outcome = .ok s →
        Same (run w job).tree (run { w with tree := t' } job).tree) ∧
    ∀ s, (run w job).outcome = .ok s →
      (∀ p, job.WritesTo w.tree p → ¬ job.ReadsFrom w.tree p) →
      (run (after w job) job).outcome = .ok s ∧
      (run (after w job) job).stdout = (run w job).stdout ∧
      Same (run w job).tree (run (after w job) job).tree := by
  refine ⟨?_, fun s hs hapart => run_repeated hs hapart⟩
  intro t' hdiffer
  have halike := run_alike hdiffer
  exact ⟨halike.outcome, halike.stdout, halike.events,
    fun s hs => (halike.success s hs).same fun _ => False.elim⟩

/-- The two lines in a file, and another file that holds something else. -/
def dailyWorld (held : Text) : World :=
  ⟨⟨[(["log".toList], .file twoLines), (["out".toList], .file (Utf8.encode held))], []⟩, .ok [],
    .unbounded⟩

/-- Report and copy both go to the other file, under two of its names. -/
def dailyJob : Job :=
  ⟨.file "log".toList, .file "out".toList, true, .text, some "./out".toList⟩

theorem dailyJob_apart (held : Text) (p : Place) (hp : dailyJob.WritesTo (dailyWorld held).tree p) :
    p = ["out".toList] ∧ ¬ dailyJob.ReadsFrom (dailyWorld held).tree p := by
  have hnames : (dailyWorld held).tree.Names "out".toList ["out".toList] := ⟨[], _, rfl, rfl⟩
  have hnames' : (dailyWorld held).tree.Names "./out".toList ["out".toList] := ⟨[], _, rfl, rfl⟩
  have hread : (dailyWorld held).tree.Names "log".toList ["log".toList] := ⟨[], _, rfl, rfl⟩
  have hout : p = ["out".toList] := by
    rcases hp with ⟨path, hd, hp⟩ | ⟨path, hd, hp⟩
    · cases hd
      exact hp.unique hnames
    · cases hd
      exact hp.unique hnames'
  refine ⟨hout, ?_⟩
  rintro ⟨path, hd, hp⟩
  cases hd
  exact absurd (hout.symm.trans (hp.unique hread)) (by decide)

theorem dailyJob_outcome (held : Text) : (run (dailyWorld held) dailyJob).outcome =
    .ok (summary (Scan.ofLog twoLines) (some (Filtered.stats twoLines))) := by
  have hreport : Goes (dailyWorld held).tree dailyJob.report (some ["out".toList]) :=
    .file ⟨_, rfl, _, rfl⟩
  have hcopy : GoesCopy (dailyWorld held).tree dailyJob.filtered (some ["out".toList]) :=
    .wanted (.file ⟨_, rfl, _, rfl⟩)
  have hsinks : SinksWork (dailyWorld held) dailyJob (some ["out".toList]) (some ["out".toList]) :=
    .of_unbounded rfl _ _ _
  exact (run_of_sinksWork rfl hreport hcopy hsinks).1

theorem earlier_contents_do_not_matter_daily :
    DifferInFiles (dailyJob.OnlyWritesTo (dailyWorld "ok\n".toList).tree)
      (dailyWorld "ok\n".toList).tree
      (dailyWorld "a report that is longer than the next one\n".toList).tree ∧
    ∃ s, (run (dailyWorld "ok\n".toList) dailyJob).outcome = .ok s ∧
      Same (run (dailyWorld "ok\n".toList) dailyJob).tree
        (run (dailyWorld "a report that is longer than the next one\n".toList) dailyJob).tree ∧
      (∀ p, dailyJob.WritesTo (dailyWorld "ok\n".toList).tree p →
        ¬ dailyJob.ReadsFrom (dailyWorld "ok\n".toList).tree p) ∧
      Same (run (dailyWorld "ok\n".toList) dailyJob).tree
        (run (after (dailyWorld "ok\n".toList) dailyJob) dailyJob).tree := by
  have hapart : ∀ p, dailyJob.WritesTo (dailyWorld "ok\n".toList).tree p →
      ¬ dailyJob.ReadsFrom (dailyWorld "ok\n".toList).tree p :=
    fun p hp => (dailyJob_apart _ p hp).2
  have hout : dailyJob.WritesTo (dailyWorld "ok\n".toList).tree ["out".toList] :=
    .inl ⟨_, rfl, [], _, rfl, rfl⟩
  have hfile : (dailyWorld "ok\n".toList).tree.at? ["out".toList] =
      some (.file (Utf8.encode "ok\n".toList)) := rfl
  have hdiffer : DifferInFiles (dailyJob.OnlyWritesTo (dailyWorld "ok\n".toList).tree)
      (dailyWorld "ok\n".toList).tree
      (dailyWorld "a report that is longer than the next one\n".toList).tree := by
    refine (FileTree.differInFiles_put hfile _).mono ?_
    rintro p rfl
    exact ⟨hout, hapart _ hout⟩
  obtain ⟨htwo, hagain⟩ := earlier_contents_do_not_matter (dailyWorld "ok\n".toList) dailyJob
  obtain ⟨-, -, -, hsame⟩ := htwo _ hdiffer
  have hs := dailyJob_outcome "ok\n".toList
  exact ⟨hdiffer, _, hs, hsame _ hs, hapart, (hagain _ hs hapart).2.2⟩

end Run
end MismatchLog
