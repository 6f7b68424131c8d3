import MismatchLog.Proofs.Run.Overwriting
import MismatchLog.Proofs.Scan.Unpaired

/-!
# What a run tells

A run tells that it has read its log, what it found there, that the copy was written and that it is
complete, as far as it gets:

* `Classifies`: it has its log and empty outputs, and so gets as far as the classification;
* `Tells`: how far a run gets, with its outcome and what it has told by then, and `run_tells` that
  there are no other ways;
* `TellsLines`: every unpaired line was told about before the classification was, and
  `events_of_classified` is where a run does that;
* `CopyWritten`: the copy was written as a whole. Exactly then it is told about
  (`tells_copy_iff`). Whatever becomes of a copy, its file holds a beginning (`copy_begun`).
-/

namespace MismatchLog

/-- An event of the classification of lines. -/
def Event.FromClassifier (e : Event) : Prop :=
  e.level = .debug ∧ e.target = "xregscan::core::classify".toList

instance : DecidablePred Event.FromClassifier := fun e =>
  inferInstanceAs (Decidable (e.level = .debug ∧ e.target = "xregscan::core::classify".toList))

namespace Run

open FileTree (SameDirectories)

/-- The log is read, and every output is open and was truncated. -/
structure Ready (w : World) (job : Job) (log : Bytes) (report : Output)
    (filtered : Option Output) (t : FileTree) : Prop where
  truncated : ∃ t₀ t₁, Opened w job log report filtered t₀ ∧ report.truncate t₀ = .ok t₁ ∧
    TruncatesCopy t₁ filtered t

/-- A run gets as far as the classification of a log. -/
def Classifies (w : World) (job : Job) (log : Bytes) : Prop :=
  ∃ report filtered t, Ready w job log report filtered t

/-- The sink behind a destination: that of the standard output, or of the file it names. -/
inductive Behind (w : World) : Destination → Sink → Prop
  | stdout : Behind w .stdout w.stdout
  | file {path : Text} {p : Place} (names : w.tree.Names path p) :
      Behind w (.file path) (w.file p)

/-- The report of a log goes through: there is room for all of it where it goes to. -/
def Reported (w : World) (job : Job) (log : Bytes) : Prop :=
  ∃ sink, Behind w job.report sink ∧ sink.Takes (reportOf job log)

/-- The copy of a log goes through, if it is wanted: there is room for all of it in its file. -/
def Copied (w : World) (job : Job) (log : Bytes) : Prop :=
  ∀ path, job.filtered = some path →
    ∃ sink, Behind w (.file path) sink ∧ sink.Takes (Filtered.copy log)

/-- A run has written its copy: it was wanted, the report before it went through, so did the copy,
and its file starts with all of it. Only a report in the same file can be longer. -/
structure CopyWritten (w : World) (job : Job) (log : Bytes) : Prop where
  classified : Classifies w job log
  reported : Reported w job log
  copied : Copied w job log
  held : ∃ path p content, job.filtered = some path ∧ w.tree.Names path p ∧
    (run w job).tree.at? p = some (.file content) ∧ Filtered.copy log <+: content

/-- What there is of a copy in its file: the beginning that there is room for, and nothing if the
report before it did not go through. -/
structure BegunAt (w : World) (job : Job) (log : Bytes) (p : Place) (content : Bytes) : Prop where
  reported : Reported w job log → content = (w.file p).beginning (Filtered.copy log)
  unreported : ¬ Reported w job log → content = []

/-- What is told about the copy of a job, once it is written. -/
def copyEvents (job : Job) (log : Bytes) : List Event :=
  (job.filtered.map fun path => Event.filteredWritten path (Filtered.stats log)).toList

/-- How far a run gets, with its outcome and with what it has told by then. -/
inductive Tells (w : World) (job : Job) : Except RunError Summary → List Event → Prop
  /-- There is no log. -/
  | unread {err : RunError} (unread : ∀ log, readInput w job.input ≠ .ok log) :
      Tells w job (.error err) []
  /-- An output cannot be opened or truncated. -/
  | unready {err : RunError} {log : Bytes} (read : readInput w job.input = .ok log)
      (unready : ¬ Classifies w job log) :
      Tells w job (.error err) [.inputRead job.input.display log.length]
  /-- The report does not go through. -/
  | unreported {err : RunError} {log : Bytes} (classified : Classifies w job log)
      (unreported : ¬ Reported w job log) :
      Tells w job (.error err)
        (.inputRead job.input.display log.length :: classification log (Scan.ofLog log))
  /-- The report goes through, but not the copy after it. -/
  | uncopied {err : RunError} {log : Bytes} (classified : Classifies w job log)
      (reported : Reported w job log) (uncopied : ¬ Copied w job log) :
      Tells w job (.error err)
        (.inputRead job.input.display log.length :: classification log (Scan.ofLog log))
  /-- All is written. -/
  | written {s : Summary} {log : Bytes} (classified : Classifies w job log)
      (reported : Reported w job log) (copied : Copied w job log) :
      Tells w job (.ok s)
        (.inputRead job.input.display log.length ::
          (classification log (Scan.ofLog log) ++ copyEvents job log ++ [.complete]))

/-- Every unpaired line of a log is told about, in the order of the lines, before the end of the
classification is, and nothing is told about lines after it. These are as many events as the counts
of the raw-line entries add up to. -/
def TellsLines (log : Bytes) (events : List Event) : Prop :=
  let tally := Scan.ofLog log
  ∃ before after,
    events =
      before ++ .classified tally.linesScanned tally.markerLines tally.size :: after ∧
    before.filter (fun e => e.FromClassifier) =
      ((Line.texts log).filter fun raw => Scan.IsUnpaired raw).map
        (fun raw => Event.ofUnpaired (Line.chomp raw)) ∧
    (before.filter fun e => e.FromClassifier).length = tally.rawCount ∧
    after.filter (fun e => e.FromClassifier) = []

/-! ## From the input to the classification -/

section
variable {w : World} {job : Job} {log : Bytes} {report : Output} {filtered : Option Output}
  {t : FileTree}

/-- The outputs of the job, opened one after the other, and empty. -/
theorem Ready.outputs (h : Ready w job log report filtered t) :
    ∃ t₁ t₂, Opens w.tree job.report report t₁ ∧ OpensCopy t₁ job.filtered filtered t₂ ∧
      Emptied t₂ t report.place? (copyPlace? filtered) := by
  obtain ⟨t₀, t₁, hopened, hreport, hcopy⟩ := h.truncated
  obtain ⟨t₂, hopens, hopens'⟩ := hopened.outputs
  exact ⟨t₂, t₀, hopens, hopens', emptied_of_truncated hreport hcopy⟩

theorem Classifies.read (h : Classifies w job log) : readInput w job.input = .ok log := by
  obtain ⟨report, filtered, t, ⟨t₀, t₁, hopened, -⟩⟩ := h
  exact hopened.read

theorem run_of_read_eq (h : readInput w job.input = .ok log) : run w job =
    { openAndWrite w job log with
      events := .inputRead job.input.display log.length :: (openAndWrite w job log).events } := by
  rw [run, h]

theorem Ready.run_eq (h : Ready w job log report filtered t) : run w job =
    { write w job log t report filtered with
      events := .inputRead job.input.display log.length ::
        (write w job log t report filtered).events } := by
  obtain ⟨t₀, t₁, hopened, hreport, hcopy⟩ := h.truncated
  rw [run_of_read_eq hopened.read, openAndWrite_of_opened hopened,
    truncateAndWrite_of_truncated hreport hcopy]

/-- From a log that was read a run either stops without a word, or writes. -/
theorem openAndWrite_cases (hread : readInput w job.input = .ok log) :
    (∃ report filtered t, Ready w job log report filtered t) ∨
      ∃ err t, openAndWrite w job log = stopped err t := by
  rcases firstFailure_or_opened w job with ⟨err, hfirst⟩ | ⟨log', report, filtered, t, hopened⟩
  · obtain ⟨t, hstopped, -⟩ := openAndWrite_of_firstFailure hread hfirst
    exact .inr ⟨err, t, hstopped⟩
  · obtain rfl : log = log' := Except.ok.inj (hread.symm.trans hopened.read)
    rw [openAndWrite_of_opened hopened]
    rcases truncateAndWrite_cases w job log t report filtered with
      ⟨e, -, hstopped⟩ | ⟨t₁, o, e, -, -, -, hstopped⟩ | ⟨t₁, t₂, htruncate, htruncates, -⟩
    · exact .inr ⟨_, _, hstopped⟩
    · exact .inr ⟨_, _, hstopped⟩
    · exact .inl ⟨report, filtered, t₂, t, t₁, hopened, htruncate, htruncates⟩

theorem Behind.unique {d : Destination} {sink sink' : Sink} (h : Behind w d sink)
    (h' : Behind w d sink') : sink = sink' := by
  cases h with
  | stdout =>
    cases h' with
    | stdout => rfl
  | file names =>
    cases h' with
    | file names' => rw [names.unique names']

/-- An open output has the sink that is behind its destination. -/
theorem Opens.behind {t' : FileTree} {d : Destination} {o : Output} (h : Opens t d o t')
    (hdirectories : SameDirectories w.tree t) : Behind w d (o.sink w) := by
  cases h with
  | stdout => exact .stdout
  | file hopen =>
    exact .file ((FileTree.names_of_sameDirectories hdirectories).mp (FileTree.names_of_open hopen))

theorem Ready.reported_iff (h : Ready w job log report filtered t) :
    Reported w job log ↔ (reporting job log (report.sink w)).failure = none := by
  obtain ⟨t₁, t₂, hopens, -, -⟩ := h.outputs
  have hbehind : Behind w job.report (report.sink w) :=
    hopens.behind (FileTree.Grows.refl w.tree).sameDirectories
  rw [failure_reporting_iff]
  constructor
  · rintro ⟨sink, hsink, htakes⟩
    rwa [hsink.unique hbehind] at htakes
  · intro htakes
    exact ⟨_, hbehind, htakes⟩

theorem Ready.copied_iff (h : Ready w job log report filtered t) :
    Copied w job log ↔ ∀ o ∈ filtered, (copying log (o.sink w)).failure = none := by
  obtain ⟨t₁, t₂, hopens, hcopy, -⟩ := h.outputs
  rw [Copied]
  generalize job.filtered = wanted at hcopy
  cases hcopy with
  | unwanted => exact iff_of_true nofun nofun
  | @wanted path o _ hopens' =>
    have hbehind : Behind w (.file path) (o.sink w) := hopens'.behind hopens.grows.sameDirectories
    constructor
    · rintro hcopied _ ⟨⟩
      obtain ⟨sink, hsink, htakes⟩ := hcopied path rfl
      rwa [failure_copying_iff, ← hsink.unique hbehind]
    · rintro hthrough _ ⟨⟩
      exact ⟨_, hbehind, failure_copying_iff.mp (hthrough o rfl)⟩

/-- The copy is told about under the name that it was asked for by. -/
theorem Ready.copyTold_eq (h : Ready w job log report filtered t) :
    copyTold log filtered = copyEvents job log := by
  obtain ⟨t₁, t₂, -, hcopy, -⟩ := h.outputs
  rw [copyTold, copyEvents]
  generalize job.filtered = wanted at hcopy
  cases hcopy with
  | unwanted => rfl
  | wanted hopens =>
    cases hopens with
    | file => rfl

/-! ## How far a run gets -/

/-- A copy that does not go through has an output, and a failure. -/
theorem Ready.exists_of_uncopied (h : Ready w job log report filtered t)
    (huncopied : ¬ Copied w job log) :
    ∃ o stage e, filtered = some o ∧ (copying log (o.sink w)).failure = some (stage, e) := by
  rw [h.copied_iff] at huncopied
  cases filtered with
  | none => exact absurd nofun huncopied
  | some o =>
    have hfailed : (copying log (o.sink w)).failure ≠ none := by
      intro hthrough
      apply huncopied
      rintro _ ⟨⟩
      exact hthrough
    obtain ⟨⟨stage, e⟩, hfailure⟩ := Option.ne_none_iff_exists'.mp hfailed
    exact ⟨o, stage, e, rfl, hfailure⟩

/-- Once report and copy have gone through, all is written and told about. -/
theorem run_of_copied (hclassified : Classifies w job log) (hreported : Reported w job log)
    (hcopied : Copied w job log) :
    ∃ s, (run w job).outcome = .ok s ∧ (run w job).events =
      .inputRead job.input.display log.length ::
        (classification log (Scan.ofLog log) ++ copyEvents job log ++ [.complete]) := by
  obtain ⟨report, filtered, t, hready⟩ := hclassified
  rw [hready.run_eq, write_of_copied (hready.reported_iff.mp hreported)
    (hready.copied_iff.mp hcopied), hready.copyTold_eq]
  exact ⟨_, rfl, rfl⟩

/-- After the first of them that does not go through nothing more is told. -/
theorem run_of_uncopied (hclassified : Classifies w job log)
    (hfailed : ¬ (Reported w job log ∧ Copied w job log)) :
    ∃ err, (run w job).outcome = .error err ∧ (run w job).events =
      .inputRead job.input.display log.length :: classification log (Scan.ofLog log) := by
  obtain ⟨report, filtered, t, hready⟩ := hclassified
  by_cases hreported : Reported w job log
  · have huncopied : ¬ Copied w job log := fun hcopied => hfailed ⟨hreported, hcopied⟩
    obtain ⟨o, stage, e, rfl, hfailure⟩ := hready.exists_of_uncopied huncopied
    rw [hready.run_eq, write_of_uncopied (hready.reported_iff.mp hreported) hfailure]
    exact ⟨_, rfl, rfl⟩
  · rw [hready.reported_iff] at hreported
    obtain ⟨⟨stage, e⟩, hfailure⟩ := Option.ne_none_iff_exists'.mp hreported
    rw [hready.run_eq, write_of_unreported hfailure]
    exact ⟨_, rfl, rfl⟩

theorem run_tells (w : World) (job : Job) :
    Tells w job (run w job).outcome (run w job).events := by
  cases hread : readInput w job.input with
  | error e =>
    rw [run, hread]
    refine .unread fun log hlog => ?_
    rw [hread] at hlog
    cases hlog
  | ok log =>
    by_cases hclassified : Classifies w job log
    · by_cases hreported : Reported w job log
      · by_cases hcopied : Copied w job log
        · obtain ⟨s, houtcome, hevents⟩ := run_of_copied hclassified hreported hcopied
          rw [houtcome, hevents]
          exact .written hclassified hreported hcopied
        · obtain ⟨err, houtcome, hevents⟩ := run_of_uncopied hclassified fun h => hcopied h.2
          rw [houtcome, hevents]
          exact .uncopied hclassified hreported hcopied
      · obtain ⟨err, houtcome, hevents⟩ := run_of_uncopied hclassified fun h => hreported h.1
        rw [houtcome, hevents]
        exact .unreported hclassified hreported
    · rcases openAndWrite_cases hread with hready | ⟨err, t, hstopped⟩
      · exact absurd hready hclassified
      · rw [run_of_read_eq hread, hstopped]
        exact .unready hread hclassified

theorem level_of_mem_classification {e : Event} {tally : Tally}
    (he : e ∈ classification log tally) : e.level = .debug := by
  rcases List.mem_append.mp he with hline | hend
  · obtain ⟨line, -, rfl⟩ := List.mem_map.mp hline
    rfl
  · obtain rfl := List.mem_singleton.mp hend
    rfl

theorem mem_copyEvents_iff {e : Event} : e ∈ copyEvents job log ↔
    ∃ path, job.filtered = some path ∧ e = .filteredWritten path (Filtered.stats log) := by
  cases hwanted : job.filtered with
  | none => simp [copyEvents, hwanted]
  | some path => simp [copyEvents, hwanted]

/-- A run tells about its steps, not about faults. -/
theorem level_of_tells {outcome : Except RunError Summary} {events : List Event}
    (h : Tells w job outcome events) {e : Event} (he : e ∈ events) :
    e.level = .debug ∨ e.level = .info := by
  cases h with
  | unread => cases he
  | unready =>
    obtain rfl := List.mem_singleton.mp he
    exact .inl rfl
  | unreported | uncopied =>
    rcases List.mem_cons.mp he with rfl | he
    · exact .inl rfl
    · exact .inl (level_of_mem_classification he)
  | written =>
    simp only [List.mem_cons, List.mem_append, List.not_mem_nil, or_false] at he
    rcases he with rfl | (he | he) | rfl
    · exact .inl rfl
    · exact .inl (level_of_mem_classification he)
    · obtain ⟨path, -, rfl⟩ := mem_copyEvents_iff.mp he
      exact .inr rfl
    · exact .inr rfl

/-! ## The lines -/

theorem fromClassifier_ofUnpaired (line : Text) : (Event.ofUnpaired line).FromClassifier :=
  ⟨rfl, rfl⟩

/-- A classification between events of other parts tells about the lines. -/
theorem tellsLines_classification {before after : List Event} (log : Bytes)
    (hbefore : before.filter (fun e => e.FromClassifier) = [])
    (hafter : after.filter (fun e => e.FromClassifier) = []) :
    TellsLines log (before ++ classification log (Scan.ofLog log) ++ after) := by
  have hlines : (before ++ (Scan.unpaired (Line.texts log)).map Event.ofUnpaired).filter
      (fun e => e.FromClassifier) = (Scan.unpaired (Line.texts log)).map Event.ofUnpaired := by
    rw [List.filter_append, hbefore, List.nil_append, List.filter_eq_self]
    intro e he
    obtain ⟨line, -, rfl⟩ := List.mem_map.mp he
    exact decide_eq_true (fromClassifier_ofUnpaired line)
  refine ⟨before ++ (Scan.unpaired (Line.texts log)).map Event.ofUnpaired, after, ?_, ?_, ?_,
    hafter⟩
  · simp [classification]
  · rw [hlines, Scan.unpaired_eq, List.map_map]
    rfl
  · rw [hlines, List.length_map, Scan.length_unpaired]
    rfl

theorem filter_copyEvents :
    (copyEvents job log).filter (fun e => e.FromClassifier) = [] := by
  rw [copyEvents]
  cases job.filtered with
  | none => rfl
  | some path => rfl

theorem events_of_classified (h : Classifies w job log) :
    ∃ after, (run w job).events =
      [.inputRead job.input.display log.length] ++ classification log (Scan.ofLog log) ++ after ∧
      after.filter (fun e => e.FromClassifier) = [] := by
  by_cases hthrough : Reported w job log ∧ Copied w job log
  · obtain ⟨s, -, hevents⟩ := run_of_copied h hthrough.1 hthrough.2
    refine ⟨copyEvents job log ++ [.complete], by simp [hevents], ?_⟩
    rw [List.filter_append, filter_copyEvents]
    rfl
  · obtain ⟨err, -, hevents⟩ := run_of_uncopied h hthrough
    exact ⟨[], by simp [hevents], rfl⟩

/-- Without a classification nothing is told about lines. -/
theorem events_of_unclassified (h : ∀ log, ¬ Classifies w job log) :
    (run w job).events.filter (fun e => e.FromClassifier) = [] := by
  have htells := run_tells w job
  generalize (run w job).outcome = outcome at htells
  generalize (run w job).events = events at htells
  cases htells with
  | unread => rfl
  | unready => rfl
  | unreported hclassified => exact absurd hclassified (h _)
  | uncopied hclassified => exact absurd hclassified (h _)
  | written hclassified => exact absurd hclassified (h _)

/-! ## The copy -/

/-- After a report that has gone through, the copy's output takes what there is room for. -/
theorem Ready.tree_of_reported {o : Output} (h : Ready w job log report (some o) t)
    (hreported : Reported w job log) :
    (run w job).tree = o.commit (report.commit t (reporting job log (report.sink w)).taken)
      ((o.sink w).beginning (Filtered.copy log)) := by
  have hthrough := h.reported_iff.mp hreported
  cases hcopying : (copying log (o.sink w)).failure with
  | none =>
    have hcopied : ∀ o' ∈ some o, (copying log (o'.sink w)).failure = none := by
      rintro _ ⟨⟩
      exact hcopying
    rw [h.run_eq, write_of_copied hthrough hcopied, commitCopy,
      (failure_copying_iff.mp hcopying).beginning_eq]
  | some failure =>
    obtain ⟨stage, e⟩ := failure
    rw [h.run_eq, write_of_uncopied hthrough hcopying, taken_copying]

theorem Ready.tree_of_unreported (h : Ready w job log report filtered t)
    (hunreported : ¬ Reported w job log) :
    (run w job).tree = report.commit t (reporting job log (report.sink w)).taken := by
  rw [h.reported_iff] at hunreported
  obtain ⟨⟨stage, e⟩, hfailure⟩ := Option.ne_none_iff_exists'.mp hunreported
  rw [h.run_eq, write_of_unreported hfailure]

/-- What the copy's file holds at the end of a run that gets as far as the classification: the
beginning of the copy that there is room for, or nothing if the report before it did not go through.
If the report is in the same file, the file can hold more. -/
theorem Ready.at?_copy (h : Ready w job log report filtered t) {path : Text} {p : Place}
    (hwanted : job.filtered = some path) (hnames : w.tree.Names path p) :
    ∃ content, (run w job).tree.at? p = some (.file content) ∧
      (Reported w job log → (w.file p).beginning (Filtered.copy log) <+: content) ∧
      (OpensAt w.tree job.report p ∨ BegunAt w job log p content) := by
  obtain ⟨t₁, t₂, hopens, hcopy, hemptied⟩ := h.outputs
  have hplace : copyPlace? filtered = some p := by
    refine hcopy.place?_eq_some_iff_names.mpr ⟨path, hwanted, ?_⟩
    rwa [FileTree.names_of_sameDirectories hopens.grows.sameDirectories]
  rw [← hopens.place?_eq_some_iff]
  by_cases hreported : Reported w job log
  · obtain ⟨o, rfl, hplace'⟩ := Option.bind_eq_some_iff.mp hplace
    have hwritten := hemptied.written (reporting job log (report.sink w)).taken
      ((o.sink w).beginning (Filtered.copy log))
    rw [h.tree_of_reported hreported, ← sink_of_place hplace']
    by_cases hboth : report.place? = some p
    · exact ⟨_, hwritten.both p hboth hplace, fun _ => List.prefix_append _ _, .inl hboth⟩
    · refine ⟨_, hwritten.onlyCopy p hplace hboth, fun _ => List.prefix_rfl, .inr ⟨?_, ?_⟩⟩
      · intro _
        rw [sink_of_place hplace']
      · exact fun hunreported => absurd hreported hunreported
  · have hempty : ∀ q, report.place? = some q → t.at? q = some (.file []) := by
      intro q hq
      rw [hemptied.found q, if_pos (.inl hq)]
    rw [h.tree_of_unreported hreported, at?_commit hempty]
    by_cases hboth : report.place? = some p
    · exact ⟨_, if_pos hboth, fun hreported' => absurd hreported' hreported, .inl hboth⟩
    · refine ⟨[], ?_, fun hreported' => absurd hreported' hreported, .inr ⟨?_, fun _ => rfl⟩⟩
      · rw [if_neg hboth, hemptied.found p, if_pos (.inr hplace)]
      · exact fun hreported' => absurd hreported' hreported

/-- The file of a copy that was opened has a place. -/
theorem Ready.exists_names (h : Ready w job log report filtered t) {path : Text}
    (hwanted : job.filtered = some path) : ∃ p, w.tree.Names path p := by
  obtain ⟨t₁, t₂, hopens, hcopy, -⟩ := h.outputs
  rw [hwanted] at hcopy
  cases hcopy with
  | wanted hopens' =>
    cases hopens' with
    | @file _ p _ hopen =>
      refine ⟨p, ?_⟩
      rw [← FileTree.names_of_sameDirectories hopens.grows.sameDirectories]
      exact FileTree.names_of_open hopen

theorem copyWritten_of_copied (hclassified : Classifies w job log)
    (hreported : Reported w job log) (hcopied : Copied w job log) {path : Text}
    (hwanted : job.filtered = some path) : CopyWritten w job log := by
  obtain ⟨report, filtered, t, hready⟩ := hclassified
  obtain ⟨p, hnames⟩ := hready.exists_names hwanted
  obtain ⟨content, hcontent, hbegun, -⟩ := hready.at?_copy hwanted hnames
  have hwhole := hbegun hreported
  obtain ⟨sink, hbehind, htakes⟩ := hcopied path hwanted
  rw [← hbehind.unique (.file hnames), htakes.beginning_eq] at hwhole
  exact ⟨⟨report, filtered, t, hready⟩, hreported, hcopied, path, p, content, hwanted, hnames,
    hcontent, hwhole⟩

/-- Whatever becomes of a copy whose file was opened and truncated, the file holds the beginning
that there is room for, unless the report is in it, too. -/
theorem copy_begun (hclassified : Classifies w job log) {path : Text}
    (hwanted : job.filtered = some path) :
    ∃ p content, w.tree.Names path p ∧ (run w job).tree.at? p = some (.file content) ∧
      (OpensAt w.tree job.report p ∨ BegunAt w job log p content) := by
  obtain ⟨report, filtered, t, hready⟩ := hclassified
  obtain ⟨p, hnames⟩ := hready.exists_names hwanted
  obtain ⟨content, hcontent, -, hbegun⟩ := hready.at?_copy hwanted hnames
  exact ⟨p, content, hnames, hcontent, hbegun⟩

/-- A copy is told about exactly if it was written as a whole. -/
theorem tells_copy_iff {path : Text} {stats : Filtered.Stats} :
    .filteredWritten path stats ∈ (run w job).events ↔
      job.filtered = some path ∧ ∃ log, stats = Filtered.stats log ∧ CopyWritten w job log := by
  constructor
  · intro hmem
    have hnone (log : Bytes) (tally : Tally) :
        Event.filteredWritten path stats ∉ classification log tally :=
      fun h => nomatch level_of_mem_classification h
    have htells := run_tells w job
    generalize (run w job).outcome = outcome at htells
    generalize (run w job).events = events at htells hmem
    cases htells with
    | unread => cases hmem
    | unready => simp at hmem
    | unreported | uncopied => simp [hnone] at hmem
    | @written _ log hclassified hreported hcopied =>
      have hcopy : Event.filteredWritten path stats ∈ copyEvents job log := by
        simpa [hnone] using hmem
      obtain ⟨path', hwanted, hevent⟩ := mem_copyEvents_iff.mp hcopy
      obtain ⟨rfl, hstats⟩ := Event.filteredWritten.inj hevent
      exact ⟨hwanted, log, hstats, copyWritten_of_copied hclassified hreported hcopied hwanted⟩
  · rintro ⟨hwanted, log, rfl, hwritten⟩
    obtain ⟨s, -, hevents⟩ :=
      run_of_copied hwritten.classified hwritten.reported hwritten.copied
    have hmem : Event.filteredWritten path (Filtered.stats log) ∈ copyEvents job log :=
      mem_copyEvents_iff.mpr ⟨path, hwanted, rfl⟩
    simp [hevents, hmem]

end

end Run
end MismatchLog
