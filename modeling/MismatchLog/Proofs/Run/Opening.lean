import MismatchLog.Proofs.FileTree.Opening
import MismatchLog.Run

/-!
# How far a run gets before it writes

* `FirstFailure`: the first of the input, the report and the copy that a run cannot get;
* `Opened`: it gets all of them;
* `firstFailure_or_opened`: one of the two, and `run_of_firstFailure` and `run_of_opened` say what
  the run does then.

Opening only ever adds empty files, so a run that fails to open something leaves every file as it
was (`failed_opening_keeps_files`).
-/

namespace MismatchLog.Run

open FileTree (Grows)

/-! ## Opening a destination -/

/-- A destination opens: the output that is got, and the tree with it. -/
inductive Opens (t : FileTree) : Destination → Output → FileTree → Prop
  | stdout : Opens t .stdout .stdout t
  | file {path : Text} {p : Place} {t' : FileTree} (opened : t.openForWriting path = .ok (p, t')) :
      Opens t (.file path) (.file path p) t'

/-- The place at which the file of a destination opens. -/
def OpensAt (t : FileTree) (d : Destination) (p : Place) : Prop :=
  ∃ path t', d = .file path ∧ t.openForWriting path = .ok (p, t')

theorem ofDestination_eq_ok_iff {t t' : FileTree} {d : Destination} {o : Output} :
    Output.ofDestination t d = .ok (o, t') ↔ Opens t d o t' := by
  constructor
  · intro h
    cases d with
    | stdout =>
      obtain ⟨rfl, rfl⟩ := Prod.mk.inj (Except.ok.inj h)
      exact .stdout
    | file path =>
      obtain ⟨⟨p, t₁⟩, hopen, h⟩ := FileTree.bind_eq_ok_iff.mp h
      obtain ⟨rfl, rfl⟩ := Prod.mk.inj (Except.ok.inj h)
      exact .file hopen
  · intro h
    cases h with
    | stdout => rfl
    | file hopen => exact FileTree.bind_eq_ok_iff.mpr ⟨_, hopen, rfl⟩

theorem ofDestination_eq_error_iff {t : FileTree} {d : Destination} {e : IoError} :
    Output.ofDestination t d = .error e ↔
      ∃ path, d = .file path ∧ t.openForWriting path = .error e := by
  cases d with
  | stdout => simp [Output.ofDestination]
  | file path =>
    cases h : t.openForWriting path with
    | error e' => simp [Output.ofDestination, h, bind, Except.bind]
    | ok r => simp [Output.ofDestination, h, bind, Except.bind, pure, Except.pure]

theorem Opens.grows {t t' : FileTree} {d : Destination} {o : Output} (h : Opens t d o t') :
    Grows t t' := by
  cases h with
  | stdout => exact .refl t
  | file hopen => exact FileTree.openForWriting_grows hopen

/-- The tree has a new file exactly where the destination opens and nothing was. -/
theorem Opens.at? {t t' : FileTree} {d : Destination} {o : Output} (h : Opens t d o t')
    (q : Place) :
    (OpensAt t d q ∧ t.at? q = none → t'.at? q = some (.file [])) ∧
      (¬ (OpensAt t d q ∧ t.at? q = none) → t'.at? q = t.at? q) := by
  cases h with
  | stdout =>
    refine ⟨?_, fun _ => rfl⟩
    rintro ⟨⟨path, t', hd, -⟩, -⟩
    cases hd
  | @file path p _ hopen =>
    have hq := FileTree.at?_openForWriting hopen q
    constructor
    · rintro ⟨⟨path', t'', hd, hopen'⟩, hnone⟩
      cases hd
      obtain ⟨rfl, -⟩ := Prod.mk.inj (Except.ok.inj (hopen'.symm.trans hopen))
      rw [hq, if_pos ⟨rfl, hnone⟩]
    · intro hno
      rw [hq, if_neg]
      rintro ⟨rfl, hnone⟩
      exact hno ⟨⟨path, _, rfl, hopen⟩, hnone⟩

/-- The copy's destination opens, if there is one. -/
inductive OpensCopy (t : FileTree) : Option Text → Option Output → FileTree → Prop
  | unwanted : OpensCopy t none none t
  | wanted {path : Text} {o : Output} {t' : FileTree} (opened : Opens t (.file path) o t') :
      OpensCopy t (some path) (some o) t'

theorem ofDestination?_eq_ok_iff {t t' : FileTree} {filtered : Option Text} {o : Option Output} :
    Output.ofDestination? t (filtered.map .file) = .ok (o, t') ↔ OpensCopy t filtered o t' := by
  cases filtered with
  | none =>
    constructor
    · intro h
      obtain ⟨rfl, rfl⟩ := Prod.mk.inj (Except.ok.inj h)
      exact .unwanted
    · rintro ⟨⟩
      rfl
  | some path =>
    constructor
    · intro h
      obtain ⟨⟨out, t₁⟩, hout, h⟩ := FileTree.bind_eq_ok_iff.mp h
      obtain ⟨rfl, rfl⟩ := Prod.mk.inj (Except.ok.inj h)
      exact .wanted (ofDestination_eq_ok_iff.mp hout)
    · intro h
      cases h with
      | wanted hopens =>
        exact FileTree.bind_eq_ok_iff.mpr ⟨_, ofDestination_eq_ok_iff.mpr hopens, rfl⟩

theorem ofDestination?_eq_error_iff {t : FileTree} {filtered : Option Text} {e : IoError} :
    Output.ofDestination? t (filtered.map .file) = .error e ↔
      ∃ path, filtered = some path ∧ t.openForWriting path = .error e := by
  cases filtered with
  | none => simp [Output.ofDestination?]
  | some path =>
    cases h : Output.ofDestination t (.file path) with
    | error e' =>
      obtain ⟨path', hd, hopen⟩ := ofDestination_eq_error_iff.mp h
      cases hd
      simp [Output.ofDestination?, h, hopen, bind, Except.bind]
    | ok r =>
      obtain ⟨o, t'⟩ := r
      cases ofDestination_eq_ok_iff.mp h with
      | file hopen => simp [Output.ofDestination?, h, hopen, bind, Except.bind, pure, Except.pure]

theorem OpensCopy.grows {t t' : FileTree} {filtered : Option Text} {o : Option Output}
    (h : OpensCopy t filtered o t') : Grows t t' := by
  cases h with
  | unwanted => exact .refl t
  | wanted hopens => exact hopens.grows

/-- There is an output exactly if a copy is wanted. -/
theorem OpensCopy.map_const {t t' : FileTree} {filtered : Option Text} {o : Option Output}
    (h : OpensCopy t filtered o t') {α : Type} (a : α) :
    (o.map fun _ => a) = filtered.map fun _ => a := by
  cases h with
  | unwanted => rfl
  | wanted => rfl

/-! ## Opening everything -/

/-- The first of input, report and copy that cannot be had. -/
inductive FirstFailure (w : World) (job : Job) : RunError → Prop
  | input {e : IoError} (unread : readInput w job.input = .error e) :
      FirstFailure w job (.inputOpen job.input.display e)
  | report {log : Bytes} {path : Text} {e : IoError} (read : readInput w job.input = .ok log)
      (wanted : job.report = .file path) (unopened : w.tree.openForWriting path = .error e) :
      FirstFailure w job (.reportOpen path e)
  | filtered {log : Bytes} {report : Output} {t : FileTree} {path : Text} {e : IoError}
      (read : readInput w job.input = .ok log) (opened : Opens w.tree job.report report t)
      (wanted : job.filtered = some path) (unopened : t.openForWriting path = .error e) :
      FirstFailure w job (.filterOpen path e)

/-- Everything is there: the log, the outputs, and the tree with them. -/
structure Opened (w : World) (job : Job) (log : Bytes) (report : Output)
    (filtered : Option Output) (t : FileTree) : Prop where
  read : readInput w job.input = .ok log
  outputs : ∃ t₁, Opens w.tree job.report report t₁ ∧ OpensCopy t₁ job.filtered filtered t

theorem Opened.grows {w : World} {job : Job} {log : Bytes} {report : Output}
    {filtered : Option Output} {t : FileTree} (h : Opened w job log report filtered t) :
    Grows w.tree t := by
  obtain ⟨t₁, hreport, hfiltered⟩ := h.outputs
  exact hreport.grows.trans hfiltered.grows

theorem firstFailure_or_opened (w : World) (job : Job) :
    (∃ err, FirstFailure w job err) ∨
      ∃ log report filtered t, Opened w job log report filtered t := by
  cases hread : readInput w job.input with
  | error e => exact .inl ⟨_, .input hread⟩
  | ok log =>
    cases hreport : Output.ofDestination w.tree job.report with
    | error e =>
      obtain ⟨path, hwanted, hopen⟩ := ofDestination_eq_error_iff.mp hreport
      exact .inl ⟨_, .report hread hwanted hopen⟩
    | ok r =>
      have hopens := ofDestination_eq_ok_iff.mp hreport
      cases hfiltered : Output.ofDestination? r.2 (job.filtered.map .file) with
      | error e =>
        obtain ⟨path, hwanted, hopen⟩ := ofDestination?_eq_error_iff.mp hfiltered
        exact .inl ⟨_, .filtered hread hopens hwanted hopen⟩
      | ok f =>
        exact .inr ⟨log, r.1, f.1, f.2, hread, r.2, hopens, ofDestination?_eq_ok_iff.mp hfiltered⟩

/-! ## What the run does then -/

/-- The same outcome, files and standard output. What is told may differ. -/
structure SameEffect (r r' : Result) : Prop where
  outcome : r.outcome = r'.outcome
  tree : r.tree = r'.tree
  stdout : r.stdout = r'.stdout

theorem run_of_read {w : World} {job : Job} {log : Bytes} (h : readInput w job.input = .ok log) :
    SameEffect (run w job) (openAndWrite w job log) := by
  rw [run, h]
  exact ⟨rfl, rfl, rfl⟩

/-- Without all of its outputs a run stops with the first failure and leaves what opening made. -/
theorem openAndWrite_of_firstFailure {w : World} {job : Job} {log : Bytes} {err : RunError}
    (hread : readInput w job.input = .ok log) (h : FirstFailure w job err) :
    ∃ t, openAndWrite w job log = stopped err t ∧
      match err with
      | .filterOpen .. => ∃ report, Opens w.tree job.report report t
      | _ => t = w.tree := by
  cases h with
  | input hunread =>
    rw [hread] at hunread
    cases hunread
  | report _ hwanted hopen =>
    have hreport := ofDestination_eq_error_iff.mpr ⟨_, hwanted, hopen⟩
    refine ⟨w.tree, ?_, rfl⟩
    rw [openAndWrite, hreport, hwanted]
    rfl
  | @filtered _ report t path e _ hopens hwanted hopen =>
    have hreport := ofDestination_eq_ok_iff.mpr hopens
    have hfiltered := ofDestination?_eq_error_iff.mpr ⟨path, hwanted, hopen⟩
    refine ⟨t, ?_, report, hopens⟩
    simp only [openAndWrite, hreport, Job.filteredTo, hfiltered]
    rw [hwanted]
    rfl

/-- A run that cannot get all it needs stops with its first failure and leaves what opening made. -/
theorem run_of_firstFailure {w : World} {job : Job} {err : RunError}
    (h : FirstFailure w job err) :
    ∃ t, SameEffect (run w job) (stopped err t) ∧
      match err with
      | .filterOpen .. => ∃ report, Opens w.tree job.report report t
      | _ => t = w.tree := by
  cases hread : readInput w job.input with
  | error e =>
    cases h with
    | input hunread =>
      refine ⟨w.tree, ?_, rfl⟩
      rw [run, hunread]
      exact ⟨rfl, rfl, rfl⟩
    | report hread' => cases hread.symm.trans hread'
    | filtered hread' => cases hread.symm.trans hread'
  | ok log =>
    obtain ⟨t, hstopped, ht⟩ := openAndWrite_of_firstFailure hread h
    exact ⟨t, hstopped ▸ run_of_read hread, ht⟩

theorem outcome_of_firstFailure {w : World} {job : Job} {err : RunError}
    (h : FirstFailure w job err) : (run w job).outcome = .error err := by
  obtain ⟨t, heffect, -⟩ := run_of_firstFailure h
  exact heffect.outcome

theorem openAndWrite_of_opened {w : World} {job : Job} {log : Bytes} {report : Output}
    {filtered : Option Output} {t : FileTree} (h : Opened w job log report filtered t) :
    openAndWrite w job log = truncateAndWrite w job log t report filtered := by
  obtain ⟨t₁, hreport, hfiltered⟩ := h.outputs
  simp only [openAndWrite, ofDestination_eq_ok_iff.mpr hreport, Job.filteredTo,
    ofDestination?_eq_ok_iff.mpr hfiltered]

theorem run_of_opened {w : World} {job : Job} {log : Bytes} {report : Output}
    {filtered : Option Output} {t : FileTree} (h : Opened w job log report filtered t) :
    SameEffect (run w job) (truncateAndWrite w job log t report filtered) := by
  rw [← openAndWrite_of_opened h]
  exact run_of_read h.read

end MismatchLog.Run
