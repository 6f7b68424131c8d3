import MismatchLog.Proofs.Run.Telling
import MismatchLog.Proofs.Session.Reporting

/-!
# What a session tells

A session has one story, and without a filter of the user's it tells the part of it that is grave
enough:

* `story`: everything that there is to tell, from the settings to the end of the run;
* `TellsFrom`, `Warns`: the threshold and the warnings that follow from the arguments and the
  settings file;
* `Narrates`: what the story says about warnings, lines, the copy and the end, and `story_narrates`
  that it does;
* `session_tells_its_story`: so a session tells the events of its story from the threshold on.
-/

namespace MismatchLog

namespace Event

/-- A threshold alone lets through what is at its level or graver. -/
theorem Filter.admits_atLevel (l : Level) :
    (Filter.atLevel l).admits = fun e => decide (e.level.detail ≤ l.detail) := by
  funext e
  simp [Filter.admits, Filter.closest?, Filter.atLevel, Filter.fits, Directive.concernsEvents,
    Threshold.admits]

/-- No event is more detailed than debugging asks for. -/
theorem detail_level_le (e : Event) : e.level.detail ≤ Level.debug.detail := by
  cases e <;> simp [level, Level.detail]

end Event

namespace Session

open CommandLine (Item Spells Says values)

/-- What a session tells about the end of its run, if that is a failure. -/
def ending : Except RunError Summary → List Event
  | .ok _ => []
  | .error e => [.failed e.message]

/-- Everything that a session has to tell, in the order in which it happens. -/
def story (t : FileTree) (path : Text) (warnings : List Text) (r : Run.Result) : List Event :=
  preamble t path warnings ++ r.events ++ ending r.outcome

/-- The threshold: that of the flag for debugging, or that of the settings, or warnings. -/
inductive TellsFrom (items : List Item) (settings : Settings) : Level → Prop
  | debugging (flag : .flag .debug ∈ items) : TellsFrom items settings .debug
  | settings {l : Level} (plain : .flag .debug ∉ items) (level : settings.level = some l) :
      TellsFrom items settings l
  | standard (plain : .flag .debug ∉ items) (none : settings.level = none) :
      TellsFrom items settings .warn

/-- The warnings about the settings file: that there is no place for it, unless it is named, and
then those about what it says. -/
inductive Warns (env : Environment) (t : FileTree) (items : List Item) (path : Text) :
    List Text → Prop
  | named {value : Text} (value : values .config items = [value]) :
      Warns env t items path ((Settings.load t path).2.map Settings.Notice.message)
  | standard {warning : Option Text} (none : values .config items = [])
      (standard : Settings.Standard env.directories path warning) :
      Warns env t items path
        (warning.toList ++ (Settings.load t path).2.map Settings.Notice.message)

/-- What the story of a session says. -/
structure Narrates (w : World) (job : Job) (warnings : List Text) (s : Result)
    (events : List Event) : Prop where
  /-- The warnings are told one by one. -/
  warned : events.filter (fun e => e.level = .warn) = warnings.map .settingsWarning
  classified : ∀ log, Run.Classifies w job log → Run.TellsLines log events
  unclassified : (∀ log, ¬ Run.Classifies w job log) →
    events.filter (fun e => e.FromClassifier) = []
  copied : ∀ path stats, .filteredWritten path stats ∈ events ↔
    job.filtered = some path ∧ ∃ log, stats = Filtered.stats log ∧ Run.CopyWritten w job log
  /-- Whether or not the copy is told about, its file holds the beginning that there is room for,
  unless the report is in it, too. -/
  begun : ∀ log path, Run.Classifies w job log → job.filtered = some path →
    ∃ p content, w.tree.Names path p ∧ s.tree.at? p = some (.file content) ∧
      (Run.OpensAt w.tree job.report p ∨ Run.BegunAt w job log p content)
  failed : s.exitCode ≠ 0 ↔ ∃ before text, events = before ++ [.failed text] ∧
    before.filter (fun e => e.level = .error) = []
  complete : s.exitCode = 0 ↔ ∃ before, events = before ++ [.complete] ∧
    before.filter (fun e => e.level = .error) = []

/-! ## The story -/

section
variable (t : FileTree) (path : Text) (warnings : List Text)

theorem warned_preamble : (preamble t path warnings).filter (fun e => e.level = .warn) =
    warnings.map .settingsWarning := by
  simp [preamble, List.filter_append, List.filter_map, Function.comp_def, Event.level]

theorem errors_preamble : (preamble t path warnings).filter (fun e => e.level = .error) = [] := by
  simp [preamble, List.filter_append, List.filter_map, Function.comp_def, Event.level]

theorem lines_preamble : (preamble t path warnings).filter (fun e => e.FromClassifier) = [] := by
  have hwarnings : (warnings.map Event.settingsWarning).filter (fun e => e.FromClassifier) = [] := by
    rw [List.filter_eq_nil_iff]
    intro e he hfrom
    obtain ⟨m, -, rfl⟩ := List.mem_map.mp he
    exact nomatch (of_decide_eq_true hfrom).1
  rw [preamble, List.filter_append, List.filter_append, hwarnings]
  rfl

theorem lines_ending (outcome : Except RunError Summary) :
    (ending outcome).filter (fun e => e.FromClassifier) = [] := by
  cases outcome with
  | ok s => rfl
  | error e => rfl

variable {w : World} {job : Job}

/-- A run itself tells of no fault. -/
theorem filter_run {l : Level} (h : l.detail < Level.info.detail) :
    (Run.run w job).events.filter (fun e => e.level = l) = [] := by
  rw [List.filter_eq_nil_iff]
  intro e he hlevel
  obtain rfl := of_decide_eq_true hlevel
  rcases Run.level_of_tells (Run.run_tells w job) he with hdebug | hinfo
  · simp [hdebug, Level.detail] at h
  · simp [hinfo] at h

theorem errors_before_ending : (preamble t path warnings ++ (Run.run w job).events).filter
    (fun e => e.level = .error) = [] := by
  rw [List.filter_append, errors_preamble, filter_run (by decide), List.append_nil]

/-- The story ends with the error, if there was one. -/
theorem story_of_error {err : RunError} (h : (Run.run w job).outcome = .error err) :
    ∃ before text, story t path warnings (Run.run w job) = before ++ [.failed text] ∧
      before.filter (fun e => e.level = .error) = [] := by
  refine ⟨preamble t path warnings ++ (Run.run w job).events, err.message, ?_,
    errors_before_ending t path warnings⟩
  rw [story, h, ending]

/-- It ends with the run being complete if there was none. -/
theorem story_of_ok {s : Summary} (h : (Run.run w job).outcome = .ok s) :
    ∃ before, story t path warnings (Run.run w job) = before ++ [.complete] ∧
      before.filter (fun e => e.level = .error) = [] := by
  have herrors := @errors_before_ending t path warnings w job
  have htells := Run.run_tells w job
  rw [story, h, ending, List.append_nil]
  rw [h] at htells
  generalize (Run.run w job).events = events at htells herrors
  cases htells with
  | written =>
    rw [← List.cons_append, ← List.append_assoc] at herrors ⊢
    rw [List.filter_append] at herrors
    exact ⟨_, rfl, (List.append_eq_nil_iff.mp herrors).1⟩

theorem not_complete_of_failed {events before : List Event} {text : Text}
    (h : events = before ++ [.failed text]) (before' : List Event) :
    events ≠ before' ++ [.complete] := by
  rw [h]
  intro hsame
  have hlast := congrArg List.getLast? hsame
  simp at hlast

theorem story_narrates {s : Result} (h : Reports (Run.run w job) s) :
    Narrates w job warnings s (story t path warnings (Run.run w job)) where
  warned := by
    rw [story, List.filter_append, List.filter_append, warned_preamble, filter_run (by decide)]
    cases (Run.run w job).outcome with
    | ok s => simp [ending]
    | error e => simp [ending, Event.level]
  classified := by
    intro log hclassified
    obtain ⟨after, hevents, hafter⟩ := Run.events_of_classified hclassified
    have hstory : story t path warnings (Run.run w job) =
        (preamble t path warnings ++ [.inputRead job.input.display log.length]) ++
          Run.classification log (Scan.ofLog log) ++
          (after ++ ending (Run.run w job).outcome) := by
      simp [story, hevents]
    rw [hstory]
    apply Run.tellsLines_classification
    · rw [List.filter_append, lines_preamble]
      rfl
    · rw [List.filter_append, hafter, lines_ending]
      rfl
  unclassified := by
    intro hnone
    rw [story, List.filter_append, List.filter_append, lines_preamble,
      Run.events_of_unclassified hnone, lines_ending]
    rfl
  copied := by
    intro copy stats
    rw [← Run.tells_copy_iff, story]
    cases (Run.run w job).outcome with
    | ok s => simp [preamble, ending]
    | error e => simp [preamble, ending]
  begun := by
    intro log copy hclassified hwanted
    rw [h.tree]
    exact Run.copy_begun hclassified hwanted
  failed := by
    constructor
    · intro hcode
      cases houtcome : (Run.run w job).outcome with
      | ok s => exact absurd (h.success.mpr ⟨s, houtcome⟩) hcode
      | error e => exact story_of_error t path warnings houtcome
    · rintro ⟨before, text, hstory, -⟩ hcode
      obtain ⟨s, houtcome⟩ := h.success.mp hcode
      obtain ⟨before', hstory', -⟩ := story_of_ok t path warnings houtcome
      exact not_complete_of_failed hstory before' hstory'
  complete := by
    constructor
    · intro hcode
      obtain ⟨s, houtcome⟩ := h.success.mp hcode
      exact story_of_ok t path warnings houtcome
    · rintro ⟨before, hstory, -⟩
      cases houtcome : (Run.run w job).outcome with
      | ok s => exact h.success.mpr ⟨s, houtcome⟩
      | error e =>
        obtain ⟨before', text, hstory', -⟩ := story_of_error t path warnings houtcome
        exact absurd hstory (not_complete_of_failed hstory' before)

end

/-! ## The session -/

theorem log_report (t : FileTree) (path : Text) (warnings : List Text) (filter : Event.Filter)
    (r : Run.Result) :
    (report t path warnings filter r).log = (story t path warnings r).filter filter.admits := by
  rw [report, story]
  cases r.outcome with
  | ok s => rfl
  | error e => rfl

section
variable {env : Environment} {w : World} {args : List Text} {request : CommandLine.Request}
  {items : List Item}

/-- Without a filter of the user's there is always one threshold. -/
theorem filter?_of_unset {debug : Bool} (hunset : env.logFilter = none)
    (hdebug : debug = true ↔ .flag .debug ∈ items) (settings : Settings) :
    ∃ l, TellsFrom items settings l ∧ filter? env debug settings = some (.atLevel l) := by
  cases debug with
  | true => exact ⟨.debug, .debugging (hdebug.mp rfl), by simp [filter?, hunset]⟩
  | false =>
    have hplain : .flag .debug ∉ items := by
      intro hflag
      cases hdebug.mpr hflag
    cases hlevel : settings.level with
    | none => exact ⟨.warn, .standard hplain hlevel, by simp [filter?, hunset, hlevel]⟩
    | some l => exact ⟨l, .settings hplain hlevel, by simp [filter?, hunset, hlevel]⟩

/-- The warnings of a session, about the place of its settings file and about what that says. -/
def warningsOf (env : Environment) (t : FileTree) (request : CommandLine.Request) : List Text :=
  (settingsPath env request).2.toList ++
    (Settings.load t (settingsPath env request).1).2.map Settings.Notice.message

theorem warns_warningsOf (h : Says items request.options) (t : FileTree) :
    Warns env t items (settingsPath env request).1 (warningsOf env t request) := by
  have hconfig := h.config
  unfold warningsOf settingsPath
  cases hc : request.options.config with
  | none =>
    rw [hc] at hconfig
    exact .standard hconfig (Settings.standard_iff.mpr rfl)
  | some path =>
    rw [hc] at hconfig
    exact .named hconfig

theorem log_of_filter {filter : Event.Filter} (hread : CommandLine.read args = .ok request)
    (hfilter : filter? env request.options.debug
      (Settings.load w.tree (settingsPath env request).1).1 = some filter) :
    (run env w args).log = (story w.tree (settingsPath env request).1
      (warningsOf env w.tree request) (Run.run w (request.job
        (Settings.load w.tree (settingsPath env request).1).1))).filter filter.admits := by
  rw [run_of_read hread, ← log_report]
  simp only [scan, hfilter, warningsOf]

theorem not_torn_of_unset (hunset : env.logFilter = none) : ¬ Torn env := by
  rintro ⟨text, htext, -⟩
  rw [hunset] at htext
  cases htext

/-- **A session tells the events of its story from its threshold on.** Without a filter of the
user's, accepted arguments and the settings file that they lead to settle a job, a threshold and
the warnings. The story of the session goes from these warnings, which come one by one and in
their order, to the end of the run, which is the session's one error if the session fails, and the
news that all is complete if it does not. A run that gets as far as the classification of a log has
told about every marked line without a pair by then, in the order of the lines, which makes as many
events as the counts of the raw-line entries add up to. The copy is told about exactly if it was
written as a whole. Of all this the session tells what is at its threshold or graver, and everything
with the flag for debugging. -/
theorem session_tells_its_story (hread : CommandLine.read args = .ok request)
    (hunset : env.logFilter = none) :
    (∃ items, Spells args items) ∧
    ∀ items, Spells args items →
      ∃ path job l warnings, LooksAt env items path ∧
        Resolves items (Settings.load w.tree path).1 job ∧
        TellsFrom items (Settings.load w.tree path).1 l ∧
        Warns env w.tree items path warnings ∧
        Reports (Run.run w job) (run env w args) ∧
        let events := story w.tree path warnings (Run.run w job)
        (run env w args).log = events.filter (fun e => e.level.detail ≤ l.detail) ∧
        (.flag .debug ∈ items → (run env w args).log = events) ∧
        Narrates w job warnings (run env w args) events := by
  obtain ⟨hoptions, hlog⟩ := CommandLine.read_eq_ok_iff.mp hread
  refine ⟨CommandLine.spells_of_ok hoptions, ?_⟩
  intro items hspells
  have hsays := CommandLine.says_of_readFrom hspells hoptions
  have hdebug := CommandLine.debug_of_readFrom hspells hoptions
  have hpath : LooksAt env items _ := looksAt_settingsPath hsays
  have hjob := resolves_job hsays hlog (Settings.load w.tree (settingsPath env request).1).1
  obtain ⟨l, htells, hfilter⟩ :=
    filter?_of_unset hunset hdebug (Settings.load w.tree (settingsPath env request).1).1
  have hreports := reports_of_resolves hread hspells hpath hjob (not_torn_of_unset hunset)
  have hsession := @log_of_filter env w args request _ hread hfilter
  rw [Event.Filter.admits_atLevel] at hsession
  refine ⟨_, _, l, _, hpath, hjob, htells, warns_warningsOf hsays w.tree, hreports, hsession, ?_,
    story_narrates _ _ _ hreports⟩
  intro hflag
  rw [hsession, List.filter_eq_self]
  intro e _
  cases htells with
  | debugging => exact decide_eq_true e.detail_level_le
  | settings plain => exact absurd hflag plain
  | standard plain => exact absurd hflag plain

end

/-- The same marked line twice, without a pair, and another line. -/
def stutter : Bytes := Utf8.encode (Line.marker ++ '\n' :: Line.marker ++ "\r\nok".toList)

/-- The settings file has a bracket that is not closed. -/
def stutterWorld (sinks : Sinks) : World :=
  ⟨⟨[(["log".toList], .file stutter), (["conf".toList], .file (Utf8.encode ['[']))], []⟩, .ok [],
    sinks⟩

/-- No file has room for anything. -/
def cramped : Sinks := ⟨.unbounded, fun _ => .full⟩

def stutterArgs : List Text :=
  ["log".toList, "-dF".toList, "kept".toList, "--config=conf".toList]

def stutterItems : List Item :=
  [.log "log".toList, .flag .debug, .option .filtered "kept".toList, .option .config "conf".toList]

def stutterJob : Job := ⟨.file "log".toList, .stdout, false, .text, some "kept".toList⟩

theorem stutterArgs_spells : Spells stutterArgs stutterItems := by
  have hcluster : CommandLine.Argument "-dF".toList [.flag .debug] (some .filtered) :=
    .letters (by decide) (.flag (by decide) (.awaiting (by decide)))
  have hconfig : CommandLine.Argument "--config=conf".toList [.option .config "conf".toList] none :=
    @CommandLine.Argument.equals "config".toList .config "conf".toList (by decide)
  exact .whole (.log rfl) (.parted hcluster rfl (.whole hconfig .done))

theorem stutter_load (sinks : Sinks) : Settings.load (stutterWorld sinks).tree "conf".toList =
    (.default, [.within "conf".toList .malformed]) := rfl

theorem stutterJob_classifies (sinks : Sinks) :
    Run.Classifies (stutterWorld sinks) stutterJob stutter :=
  ⟨_, _, _, _, _, ⟨rfl, _, .stdout, .wanted (.file rfl)⟩, rfl, .output rfl⟩

theorem stutterJob_names (sinks : Sinks) :
    (stutterWorld sinks).tree.Names "kept".toList ["kept".toList] := ⟨[], _, rfl, rfl⟩

theorem stutterJob_reported : Run.Reported (stutterWorld .unbounded) stutterJob stutter :=
  ⟨_, .stdout, Sink.works_unbounded.takes _⟩

theorem stutterJob_copied : Run.Copied (stutterWorld .unbounded) stutterJob stutter := by
  rintro _ ⟨⟩
  exact ⟨_, .file (stutterJob_names .unbounded), Sink.works_unbounded.takes _⟩

/-- The copy is the other line, which has two bytes. -/
theorem stutterJob_uncopied : ¬ Run.Copied (stutterWorld cramped) stutterJob stutter := by
  intro hcopied
  obtain ⟨sink, hbehind, htakes⟩ := hcopied "kept".toList rfl
  obtain rfl : Sink.full = sink :=
    Run.Behind.unique (.file (stutterJob_names cramped)) hbehind
  exact absurd (htakes.room 0 rfl) (by decide)

/-- Two lines are told about, which share one entry. -/
theorem stutter_tally : (Scan.ofLog stutter).rawCount = 2 ∧
    (Scan.ofLog stutter).linesScanned = 3 ∧ (Scan.ofLog stutter).markerLines = 2 ∧
    (Scan.ofLog stutter).size = 1 := by
  have held := Scan.ofTexts_holds (Line.texts stutter)
  rw [Scan.ofLog, Scan.rawCount_ofTexts, Scan.linesScanned_ofTexts, held.markerLines, Tally.size,
    held.size]
  decide

theorem session_tells_its_story_stutter :
    (∃ request, CommandLine.read stutterArgs = .ok request) ∧
    (⟨home, none⟩ : Environment).logFilter = none ∧
    Run.Classifies (stutterWorld .unbounded) stutterJob stutter ∧
    (let session := run ⟨home, none⟩ (stutterWorld .unbounded) stutterArgs
    session.log.filter (fun e => e.level = .warn) =
      [.settingsWarning (Settings.Notice.within "conf".toList .malformed).message] ∧
    (∃ before after, session.log = before ++ .classified 3 2 1 :: after ∧
      (before.filter fun e => e.FromClassifier).length = 2) ∧
    .filteredWritten "kept".toList ⟨1, 2⟩ ∈ session.log ∧
    session.exitCode = 0 ∧
    ∃ before, session.log = before ++ [.complete]) ∧
    let session := run ⟨home, none⟩ (stutterWorld cramped) stutterArgs
    (∀ stats, .filteredWritten "kept".toList stats ∉ session.log) ∧
    session.exitCode ≠ 0 ∧
    ∃ before text, session.log = before ++ [.failed text] := by
  have hread : CommandLine.read stutterArgs = .ok ⟨"log".toList, some "log".toList, none,
      some "kept".toList, none, some "conf".toList, none, true⟩ := rfl
  have hsession (sinks : Sinks) :
      let session := run ⟨home, none⟩ (stutterWorld sinks) stutterArgs
      Reports (Run.run (stutterWorld sinks) stutterJob) session ∧
        Narrates (stutterWorld sinks) stutterJob
          [(Settings.Notice.within "conf".toList .malformed).message] session session.log := by
    obtain ⟨-, hsession⟩ :=
      @session_tells_its_story ⟨home, none⟩ (stutterWorld sinks) _ _ hread rfl
    obtain ⟨path, job, l, warnings, hpath, hjob, -, hwarns, hreports, -, hall, hnarrates⟩ :=
      hsession _ stutterArgs_spells
    obtain rfl := hpath.unique (.named rfl)
    rw [stutter_load] at hjob
    obtain rfl : job = stutterJob :=
      hjob.unique ⟨⟨_, rfl, rfl⟩, ⟨none, rfl, rfl⟩, rfl, rfl, .settings rfl⟩
    have hwarnings : warnings = [(Settings.Notice.within "conf".toList .malformed).message] := by
      cases hwarns with
      | named => rw [stutter_load]; rfl
      | standard hnone => cases hnone
    subst hwarnings
    rw [← hall (by decide)] at hnarrates
    exact ⟨hreports, hnarrates⟩
  obtain ⟨hreports, hnarrates⟩ := hsession .unbounded
  obtain ⟨hreports', hnarrates'⟩ := hsession cramped
  have hclassifies := stutterJob_classifies .unbounded
  have hwritten : Run.CopyWritten (stutterWorld .unbounded) stutterJob stutter :=
    Run.copyWritten_of_copied hclassifies stutterJob_reported stutterJob_copied rfl
  have hstats : (⟨1, 2⟩ : Filtered.Stats) = Filtered.stats stutter := by decide
  have hcode : (run ⟨home, none⟩ (stutterWorld .unbounded) stutterArgs).exitCode = 0 := by
    obtain ⟨s, houtcome, -⟩ :=
      Run.run_of_copied hclassifies stutterJob_reported stutterJob_copied
    exact hreports.success.mpr ⟨s, houtcome⟩
  have hcode' : (run ⟨home, none⟩ (stutterWorld cramped) stutterArgs).exitCode ≠ 0 := by
    obtain ⟨err, houtcome, -⟩ := Run.run_of_uncopied (stutterJob_classifies cramped)
      fun hthrough => stutterJob_uncopied hthrough.2
    rw [hreports'.failure err houtcome]
    exact exitCode_ne_zero err
  obtain ⟨before, after, hlog, -, hcount, -⟩ := hnarrates.classified _ hclassifies
  obtain ⟨hraw, hscanned, hmarked, hsize⟩ := stutter_tally
  rw [hscanned, hmarked, hsize] at hlog
  rw [hraw] at hcount
  obtain ⟨init, hend, -⟩ := hnarrates.complete.mp hcode
  obtain ⟨init', text, hend', -⟩ := hnarrates'.failed.mp hcode'
  refine ⟨⟨_, hread⟩, rfl, hclassifies, ⟨hnarrates.warned, ⟨before, after, hlog, hcount⟩,
    (hnarrates.copied _ _).mpr ⟨rfl, stutter, hstats, hwritten⟩, hcode, init, hend⟩, ?_, hcode',
    init', text, hend'⟩
  intro stats htold
  obtain ⟨-, log, -, hwritten'⟩ := (hnarrates'.copied _ _).mp htold
  obtain rfl : stutter = log := Except.ok.inj hwritten'.classified.read
  exact stutterJob_uncopied hwritten'.copied

end Session
end MismatchLog
