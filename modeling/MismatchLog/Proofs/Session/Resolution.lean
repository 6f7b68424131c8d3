import MismatchLog.Proofs.CommandLine.Choices
import MismatchLog.Proofs.Settings.Standard
import MismatchLog.Session
import Mathlib.Data.List.Basic

/-!
# What a session is to do

* `LooksAt`, `Resolves`: the settings file and the job that follow from what a command line says and
  from the settings;
* `looksAt_settingsPath`, `resolves_job`: the session takes them, and `LooksAt.unique`,
  `Resolves.unique`: there are no others;
* `DifferInLogging`: command lines that differ in the flag for debugging at most ask for the same.
-/

namespace MismatchLog.Session

open CommandLine (Item Spells Says choices values logs)

/-! ## What is to be done -/

/-- The settings file: the one that is named, or the standard one. -/
inductive LooksAt (env : Environment) (items : List Item) : Text → Prop
  | named {path : Text} (value : values .config items = [path]) : LooksAt env items path
  | standard {path : Text} {warning : Option Text} (none : values .config items = [])
      (standard : Settings.Standard env.directories path warning) : LooksAt env items path

/-- The format: the one that is named, or that of the settings. -/
inductive FormatOf (items : List Item) (settings : Settings) : Format → Prop
  | named {f : Format} (value : values .format items = [f.label]) : FormatOf items settings f
  | settings (none : values .format items = []) : FormatOf items settings settings.format

/-- A job that a command line asks for. What it leaves open is taken from the settings. -/
structure Resolves (items : List Item) (settings : Settings) (job : Job) : Prop where
  input : ∃ log, logs items = [log] ∧ job.input = .ofArgument log
  report : ∃ arg, values .output items = arg.toList ∧ job.report = .ofArgument? arg
  filtered : values .filtered items = job.filtered.toList
  counts : job.counts = (choices items).getLast?.getD settings.counts
  format : FormatOf items settings job.format

theorem looksAt_settingsPath {env : Environment} {items : List Item} {request : CommandLine.Request}
    (h : Says items request.options) : LooksAt env items (settingsPath env request).1 := by
  have hconfig := h.config
  unfold settingsPath
  cases hc : request.options.config with
  | none =>
    rw [hc] at hconfig
    exact .standard hconfig (Settings.standard_iff.mpr rfl)
  | some path =>
    rw [hc] at hconfig
    exact .named hconfig

theorem resolves_job {items : List Item} {request : CommandLine.Request}
    (h : Says items request.options) (hlog : request.options.log = some request.log)
    (settings : Settings) : Resolves items settings (request.job settings) where
  input := by
    refine ⟨request.log, ?_, rfl⟩
    rw [h.log, hlog]
    rfl
  report := ⟨request.options.output, h.output, rfl⟩
  filtered := h.filtered
  counts := by
    rw [h.counts]
    rfl
  format := by
    have hformat := h.format
    show FormatOf items settings (request.options.format.getD settings.format)
    cases hf : request.options.format with
    | none =>
      rw [hf] at hformat
      exact .settings hformat
    | some f =>
      rw [hf] at hformat
      exact .named hformat

theorem FormatOf.unique {items : List Item} {settings : Settings} {f g : Format}
    (hf : FormatOf items settings f) (hg : FormatOf items settings g) : f = g := by
  cases hf with
  | named value =>
    cases hg with
    | named value' =>
      have hlabel : f.label = g.label := by simpa [value] using value'
      cases f <;> cases g <;> simp_all [Format.label]
    | settings none => simp [value] at none
  | settings none =>
    cases hg with
    | named value => simp [value] at none
    | settings => rfl

theorem LooksAt.unique {env : Environment} {items : List Item} {path path' : Text}
    (h : LooksAt env items path) (h' : LooksAt env items path') : path = path' := by
  cases h with
  | named value =>
    cases h' with
    | named value' => simpa [value] using value'
    | standard none => simp [value] at none
  | standard none standard =>
    cases h' with
    | named value => simp [value] at none
    | standard _ standard' => exact (standard.unique standard').1

theorem Resolves.unique {items : List Item} {settings : Settings} {job job' : Job}
    (h : Resolves items settings job) (h' : Resolves items settings job') : job = job' := by
  obtain ⟨log, hlog, hinput⟩ := h.input
  obtain ⟨log', hlog', hinput'⟩ := h'.input
  obtain ⟨arg, harg, hreport⟩ := h.report
  obtain ⟨arg', harg', hreport'⟩ := h'.report
  have hsameLog : log = log' := by simpa [hlog] using hlog'
  have hsameArg : arg = arg' := by
    simpa using congrArg List.head? (harg.symm.trans harg')
  have hfiltered : job.filtered = job'.filtered := by
    simpa using congrArg List.head? (h.filtered.symm.trans h'.filtered)
  have hcounts : job.counts = job'.counts := h.counts.trans h'.counts.symm
  have hformat : job.format = job'.format := h.format.unique h'.format
  obtain ⟨input, report, counts, format, filtered⟩ := job
  obtain ⟨input', report', counts', format', filtered'⟩ := job'
  simp_all

/-! ## Command lines that differ in debugging -/

/-- The same items but for the flag for debugging, with the same directories. The filters for
events may be any. -/
structure DifferInLogging (env env' : Environment) (items items' : List Item) : Prop where
  directories : env'.directories = env.directories
  items : items'.filter (· ≠ .flag .debug) = items.filter (· ≠ .flag .debug)

section
variable {env env' : Environment} {items items' : List Item}

/-- What the flag for debugging says nothing about is said alike. -/
theorem DifferInLogging.said {α : Type} {part? : Item → Option α}
    (h : DifferInLogging env env' items items') (hdebug : part? (.flag .debug) = none) :
    items'.filterMap part? = items.filterMap part? := by
  have hwithout (all : List Item) :
      (all.filter (· ≠ .flag .debug)).filterMap part? = all.filterMap part? := by
    rw [List.filterMap_filter]
    apply List.filterMap_congr
    intro item _
    by_cases hitem : item = .flag .debug
    · rw [hitem, hdebug]
      rfl
    · simp [hitem]
  rw [← hwithout items', h.items, hwithout]

theorem DifferInLogging.looksAt {path : Text} (h : DifferInLogging env env' items items')
    (hpath : LooksAt env items path) : LooksAt env' items' path := by
  have hconfig : values .config items' = values .config items := h.said rfl
  cases hpath with
  | named value => exact .named (hconfig.trans value)
  | standard none standard =>
    rw [← h.directories] at standard
    exact .standard (hconfig.trans none) standard

theorem DifferInLogging.formatOf {settings : Settings} {f : Format}
    (h : DifferInLogging env env' items items') (hf : FormatOf items settings f) :
    FormatOf items' settings f := by
  have hformat : values .format items' = values .format items := h.said rfl
  cases hf with
  | named value => exact .named (hformat.trans value)
  | settings none => exact .settings (hformat.trans none)

theorem DifferInLogging.resolves {settings : Settings} {job : Job}
    (h : DifferInLogging env env' items items') (hjob : Resolves items settings job) :
    Resolves items' settings job := by
  have hlogs : logs items' = logs items := h.said rfl
  have hvalues (v : CommandLine.Valued) : values v items' = values v items := h.said rfl
  have hchoices : choices items' = choices items := h.said rfl
  obtain ⟨input, report, filtered, counts, format⟩ := hjob
  refine ⟨?_, ?_, ?_, ?_, h.formatOf format⟩
  · rwa [hlogs]
  · rwa [hvalues]
  · rwa [hvalues]
  · rwa [hchoices]

end

end MismatchLog.Session
