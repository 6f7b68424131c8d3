import MismatchLog.Proofs.Event.Tearing
import MismatchLog.Proofs.Run.Effect
import MismatchLog.Proofs.Session.Resolution
import MismatchLog.Proofs.Settings.Fallback
import MismatchLog.Proofs.Text.Separated

/-!
# A session shows the run of its job

* `Torn`: the event filter has a directive that would be cut inside a character, and
  `not_torn_of_one_byte_each`: none of plain ASCII has;
* `Reports`: what a session shows of its run. `scan_of_not_torn`, `scan_of_torn`: with a filter that
  can be read it does, and with any other it breaks off;
* `session_runs_resolved_job`: so a session shows the run of the job that its arguments and settings
  resolve to, whatever its filter and its flag for debugging are.
-/

namespace MismatchLog.Session

open CommandLine (Item Spells)

/-! ## The filter for events -/

/-- A directive of the filter would be cut inside a character. -/
def Torn (env : Environment) : Prop :=
  ∃ text, env.logFilter = some text ∧
    ∃ d ∈ Text.cut ',' text, Event.Directive.ofText d = .error .torn

theorem filter?_eq_none_iff {env : Environment} {debug : Bool} {settings : Settings} :
    filter? env debug settings = none ↔ Torn env := by
  unfold Torn
  cases hfilter : env.logFilter with
  | none => cases debug <;> cases hlevel : settings.level <;> simp [filter?, hfilter, hlevel]
  | some text => simp [filter?, hfilter, Event.Filter.ofText?_eq_none_iff]

/-- It takes a directive with a blank in front and a character of several bytes. -/
theorem not_torn_of_plain {env : Environment}
    (h : ∀ text ∈ env.logFilter, ∀ d ∈ Text.cut ',' text,
      (∀ c ∈ d.head?, Text.isBlank c = false) ∨ ∀ c ∈ d, c.utf8Size = 1) : ¬ Torn env := by
  rintro ⟨text, htext, d, hd, htorn⟩
  exact Event.Directive.ofText_ne_torn_of_plain (h text htext d hd) htorn

theorem not_torn_of_one_byte_each {env : Environment}
    (h : ∀ text ∈ env.logFilter, ∀ c ∈ text, c.utf8Size = 1) : ¬ Torn env := by
  apply not_torn_of_plain
  intro text htext d hd
  exact .inr fun c hc => h text htext c (Text.mem_of_mem_cut hd hc)

/-! ## The session -/

/-- What a session shows of a run. What it says last is the error that ended the run, if one
did. -/
structure Reports (r : Run.Result) (s : Result) : Prop where
  success : s.exitCode = 0 ↔ ∃ summary, r.outcome = .ok summary
  failure : ∀ e, r.outcome = .error e → s.exitCode = e.exitCode
  stdout : s.stdout = r.stdout
  tree : s.tree = r.tree
  advice : s.advice = none
  complaint : ∀ text, s.complaint = some text ↔
    ∃ e, r.outcome = .error e ∧ text = "Error: ".toList ++ e.message

theorem exitCode_ne_zero (e : RunError) : e.exitCode ≠ 0 := by
  cases e <;> exact Nat.succ_ne_zero _

theorem reports_report (t : FileTree) (path : Text) (warnings : List Text)
    (filter : Event.Filter) (r : Run.Result) : Reports r (report t path warnings filter r) := by
  unfold report
  cases hr : r.outcome with
  | ok summary => constructor <;> simp [hr]
  | error e =>
    have hcode := exitCode_ne_zero e
    constructor <;> simp [hr, hcode, eq_comm]

theorem scan_of_not_torn {env : Environment} (h : ¬ Torn env) (w : World)
    (request : CommandLine.Request) :
    Reports (Run.run w (request.job (Settings.load w.tree (settingsPath env request).1).1))
      (scan env w request) := by
  unfold scan
  cases hfilter : filter? env request.options.debug
      (Settings.load w.tree (settingsPath env request).1).1 with
  | none => exact absurd (filter?_eq_none_iff.mp hfilter) h
  | some filter =>
    simp only [hfilter]
    exact reports_report _ _ _ _ _

theorem scan_of_torn {env : Environment} (h : Torn env) (w : World)
    (request : CommandLine.Request) : scan env w request = broken w := by
  simp only [scan, filter?_eq_none_iff.mpr h]

/-- Two sessions that show the same run. -/
theorem Reports.alike {r : Run.Result} {s s' : Result} (h : Reports r s) (h' : Reports r s') :
    s'.exitCode = s.exitCode ∧ s'.stdout = s.stdout ∧ s'.tree = s.tree := by
  refine ⟨?_, h'.stdout.trans h.stdout.symm, h'.tree.trans h.tree.symm⟩
  cases hr : r.outcome with
  | ok summary =>
    have hcode := h.success.mpr ⟨summary, hr⟩
    have hcode' := h'.success.mpr ⟨summary, hr⟩
    rw [hcode, hcode']
  | error e => rw [h.failure e hr, h'.failure e hr]

theorem run_of_read {env : Environment} {w : World} {args : List Text}
    {request : CommandLine.Request} (h : CommandLine.read args = .ok request) :
    run env w args = scan env w request := by
  rw [run, h]

theorem reports_of_resolves {env : Environment} {w : World} {args : List Text}
    {request : CommandLine.Request} {items : List Item} {path : Text} {job : Job}
    (hread : CommandLine.read args = .ok request) (hspells : Spells args items)
    (hpath : LooksAt env items path) (hjob : Resolves items (Settings.load w.tree path).1 job)
    (hwhole : ¬ Torn env) : Reports (Run.run w job) (run env w args) := by
  obtain ⟨hoptions, hlog⟩ := CommandLine.read_eq_ok_iff.mp hread
  have hsays := CommandLine.says_of_readFrom hspells hoptions
  obtain rfl := hpath.unique (looksAt_settingsPath hsays)
  obtain rfl := hjob.unique (resolves_job hsays hlog _)
  rw [run_of_read hread]
  exact scan_of_not_torn hwhole w request

/-- **A session runs the job that its arguments and settings resolve to.** Whatever items accepted
arguments spell, they settle a settings file and, with the settings from there, a job: the last flag
for counts and the format that is named come before the settings, and settings that are of no use
ask for text without counts. Unless the filter for events is torn the session shows the run of that
job, and so does every session with the same items but for the flag for debugging. If the filter is
torn the session breaks off before its run. -/
theorem session_runs_resolved_job {env : Environment} {w : World} {args : List Text}
    {request : CommandLine.Request} (h : CommandLine.read args = .ok request) :
    (∃ items, Spells args items) ∧
    ∀ items, Spells args items →
      ∃ path job, LooksAt env items path ∧
        Resolves items (Settings.load w.tree path).1 job ∧
        (Settings.Unusable w.tree path → (Settings.load w.tree path).1.counts = false ∧
          (Settings.load w.tree path).1.format = .text) ∧
        (∀ fields, Settings.Declares w.tree path fields →
          (Settings.load w.tree path).1 = (Settings.ofFields fields).1) ∧
        (¬ Torn env → Reports (Run.run w job) (run env w args)) ∧
        (Torn env → run env w args = broken w) ∧
        ∀ env' args' request' items', CommandLine.read args' = .ok request' →
          Spells args' items' → DifferInLogging env env' items items' →
          ¬ Torn env → ¬ Torn env' →
          (run env' w args').exitCode = (run env w args).exitCode ∧
          (run env' w args').stdout = (run env w args).stdout ∧
          (run env' w args').tree = (run env w args).tree := by
  obtain ⟨hoptions, hlog⟩ := CommandLine.read_eq_ok_iff.mp h
  refine ⟨CommandLine.spells_of_ok hoptions, ?_⟩
  intro items hspells
  have hsays := CommandLine.says_of_readFrom hspells hoptions
  have hpath : LooksAt env items _ := looksAt_settingsPath hsays
  have hjob := resolves_job hsays hlog (Settings.load w.tree (settingsPath env request).1).1
  refine ⟨_, _, hpath, hjob, ?_, fun fields => Settings.load_of_declares, ?_, ?_, ?_⟩
  · intro hunusable
    rw [Settings.load_of_unusable hunusable]
    exact ⟨rfl, rfl⟩
  · exact reports_of_resolves h hspells hpath hjob
  · intro htorn
    rw [run_of_read h]
    exact scan_of_torn htorn w request
  · intro env' args' request' items' h' hspells' hdiffer hwhole hwhole'
    have hreports := reports_of_resolves h hspells hpath hjob hwhole
    have hreports' := reports_of_resolves h' hspells' (hdiffer.looksAt hpath)
      (hdiffer.resolves hjob) hwhole'
    exact hreports.alike hreports'

def shelfLog : Bytes :=
  Utf8.encode "GVM error: DUT and REF xreg mismatch DUT = 0x1, REF = 0x2\n".toList

/-- A log, and settings that ask for counts and for JSON. -/
def shelf : World :=
  ⟨⟨[(["log".toList], .file shelfLog),
      (["conf".toList],
        .file (Utf8.encode "[report]\ncounts = true\nformat = \"json\"\n".toList))], []⟩,
    .ok [], .unbounded⟩

def shelfFields : Settings.Fields := ⟨⟨some true, some "json".toList⟩, ⟨none⟩⟩

theorem shelf_declares : Settings.Declares shelf.tree "conf".toList shelfFields :=
  .fields rfl rfl rfl

def home : Settings.Directories := ⟨none, none, none⟩

/-- Flags in a cluster and apart, with debugging. -/
def clustered : List Text :=
  ["-dc".toList, "--no-counts".toList, "log".toList, "--config=conf".toList]

/-- The same in other words and another order, without debugging. -/
def apart : List Text :=
  ["-c".toList, "--no-counts".toList, "log".toList, "--config".toList, "conf".toList]

def apartItems : List Item :=
  [.flag .counts, .flag .noCounts, .log "log".toList, .option .config "conf".toList]

def asked (debug : Bool) : CommandLine.Options :=
  ⟨some "log".toList, none, none, none, some "conf".toList, some false, debug⟩

theorem clustered_spells : Spells clustered (.flag .debug :: apartItems) := by
  have hcluster : CommandLine.Argument "-dc".toList [.flag .debug, .flag .counts] none :=
    .letters (by decide) (.flag (by decide) (.flag (by decide) .done))
  have hflag : CommandLine.Argument "--no-counts".toList [.flag .noCounts] none :=
    .flag (by decide)
  have hconfig : CommandLine.Argument "--config=conf".toList [.option .config "conf".toList] none :=
    @CommandLine.Argument.equals "config".toList .config "conf".toList (by decide)
  exact .whole hcluster (.whole hflag (.whole (.log rfl) (.whole hconfig .done)))

theorem apart_spells : Spells apart apartItems := by
  have hletter : CommandLine.Argument "-c".toList [.flag .counts] none :=
    .letters (by decide) (.flag (by decide) .done)
  have hflag : CommandLine.Argument "--no-counts".toList [.flag .noCounts] none :=
    .flag (by decide)
  have hconfig : CommandLine.Argument "--config".toList [] (some .config) := .awaiting (by decide)
  exact .whole hletter (.whole hflag (.whole (.log rfl) (.parted hconfig rfl .done)))

/-- The flag comes before the settings, and the format is theirs. -/
def shelfJob : Job := ⟨.file "log".toList, .stdout, false, .json, none⟩

theorem shelf_resolves : Resolves (.flag .debug :: apartItems) (Settings.ofFields shelfFields).1
    shelfJob where
  input := ⟨"log".toList, rfl, rfl⟩
  report := ⟨none, rfl, rfl⟩
  filtered := rfl
  counts := rfl
  format := .settings rfl

theorem shelf_succeeds : ∃ summary, (Run.run shelf shelfJob).outcome = .ok summary := by
  have hread : Run.readInput shelf shelfJob.input = .ok shelfLog := rfl
  have hsinks : Run.SinksWork shelf shelfJob none none := .of_unbounded rfl _ _ _
  exact ⟨_, (Run.run_of_sinksWork hread .stdout .unwanted hsinks).1⟩

theorem session_runs_resolved_job_shelf :
    (∃ request, CommandLine.read clustered = .ok request) ∧
    Spells clustered (.flag .debug :: apartItems) ∧
    Reports (Run.run shelf shelfJob) (run ⟨home, none⟩ shelf clustered) ∧
    (run ⟨home, none⟩ shelf clustered).exitCode = 0 ∧
    (run ⟨home, some "trace".toList⟩ shelf apart).stdout =
      (run ⟨home, none⟩ shelf clustered).stdout := by
  have hread : CommandLine.read clustered = .ok ⟨"log".toList, asked true⟩ := rfl
  have hread' : CommandLine.read apart = .ok ⟨"log".toList, asked false⟩ := rfl
  have hwhole : ¬ Torn ⟨home, none⟩ := not_torn_of_one_byte_each nofun
  have hwhole' : ¬ Torn ⟨home, some "trace".toList⟩ := by
    have hall : "trace".toList.all (·.utf8Size = 1) = true := by decide
    apply not_torn_of_one_byte_each
    intro text htext
    obtain rfl := Option.some.inj htext
    simpa using hall
  obtain ⟨-, hsession⟩ := @session_runs_resolved_job ⟨home, none⟩ shelf _ _ hread
  obtain ⟨path, job, hpath, hjob, -, hfields, hreports, -, hlogging⟩ := hsession _ clustered_spells
  obtain rfl := hpath.unique (.named rfl)
  rw [hfields _ shelf_declares] at hjob
  obtain rfl := hjob.unique shelf_resolves
  have hsame := hlogging ⟨home, some "trace".toList⟩ apart _ apartItems hread' apart_spells
    ⟨rfl, rfl⟩ hwhole hwhole'
  exact ⟨⟨_, hread⟩, clustered_spells, hreports hwhole, (hreports hwhole).success.mpr shelf_succeeds,
    hsame.2.1⟩

/-- A blank in front of a character of two bytes. -/
def tornFilter : Environment := ⟨home, some " é=debug".toList⟩

theorem tornFilter_torn : Torn tornFilter := ⟨_, rfl, _, List.mem_singleton.mpr rfl, rfl⟩

/-- With such a filter a session does not show its run, which would have succeeded. -/
theorem torn_filter_hides_run :
    ¬ ∀ (env : Environment) (w : World) (args : List Text) (request : CommandLine.Request),
      CommandLine.read args = .ok request → w.stdout.Works →
      Reports (Run.run w (request.job (Settings.load w.tree (settingsPath env request).1).1))
        (run env w args) := by
  intro h
  have hread : CommandLine.read apart = .ok ⟨"log".toList, asked false⟩ := rfl
  have hshown := h tornFilter shelf apart _ hread Sink.works_unbounded
  have hcode := hshown.success.mpr shelf_succeeds
  rw [run_of_read hread, scan_of_torn tornFilter_torn] at hcode
  cases hcode

end MismatchLog.Session
